import Chamelio.Tcp.SynNumbers

/-!
# Hosts that open connections to each other

Any number of hosts, each with its slow path in any state that `tcp_init` and
its applications lead to, and the control packets that were ever sent. Every
event of every slow path may happen at any time: requests, timers, segments,
and the fast path on the same sockets. A packet with a SYN is delivered as it
was sent but for its checksums and its time, and may be delivered late, again,
in any order or never; a packet without one may be anything at all.

`handshake_agrees` says what the two ends of a connection know of each other
while no byte has been moved: each expects the number the other one sends
next, and the acknowledgement of the client is one the server takes. There is
one exception, and `handshake_off_by_one` shows it. A server that gets a SYN
twice sends its SYN-ACK again with number 0, and a client that takes this one
expects a number too low by one ever after.

Mirroring notes:
- `moved` remembers the sockets of which the fast path has changed a number.
  It changes none of a socket that is still shaking hands: a segment is not
  taken before the socket is established, and the application bumps a socket
  only after it was told so.
- All initial numbers are 1, so what one end knows is right for any other end
  and not only for the one it is connected to.
-/

namespace Chamelio.Tcp

open Chamelio.Lib Chamelio.Util Chamelio.Pkt Chamelio.Fast

/-! ## Hosts and packets -/

structure ShakeNet where
  hosts : Nat → TcpSlowCtx
  /-- The control packets the fast paths have taken out of the queues. -/
  wire : List (List UInt8)
  /-- Host and socket. -/
  moved : Nat → Nat → Bool

/-- An event of one slow path, or its fast path sends the packet at the head
of its queue. -/
inductive NetAct
  | host (h : Nat) (act : SlowAct)
  | transmit (h : Nat)

/-- The numbers of a socket did not change. -/
def sameSeq (s t : TcpSock) : Bool :=
  t.txSeq == s.txSeq && t.txPending == s.txPending && t.rxSeq == s.rxSeq

def ShakeNet.setHost (s : ShakeNet) (h : Nat) (ctx : TcpSlowCtx) : ShakeNet :=
  { s with hosts := fun k => if k = h then ctx else s.hosts k }

/-- `deq_handle_ctl_tx` takes the packet and its signal. -/
def ctlTaken (ctx : TcpSlowCtx) : TcpSlowCtx :=
  { ctx with slowFastPktQ := ctx.slowFastPktQ.pop, slowFastSigQ := ctx.slowFastSigQ.pop }

def netStep (s : ShakeNet) : NetAct → ShakeNet × Unit
  | .host h act =>
    let ctx := slowNext (s.hosts h) act
    ({ s.setHost h ctx with
        moved := fun k i => s.moved k i ||
          (k == h && !act.isSlow && !sameSeq ((s.hosts h).sock i) (ctx.sock i)) }, ())
  | .transmit h =>
    match (s.hosts h).slowFastPktQ.head? with
    | some (.ctlTxPkt bytes) =>
      ({ s.setHost h (ctlTaken (s.hosts h)) with wire := bytes :: s.wire }, ())
    | _ => (s, ())

/-- The packet is the one that was sent, but for its checksums and the time in
its option. -/
def Arrives (bytes : List UInt8) (p : Nat → UInt8) : Prop :=
  ∀ i, i < (ipLen (pktOf bytes)).toNat → i = 10 ∨ i = 11 ∨ i = 36 ∨ i = 37 ∨ (42 ≤ i ∧ i < 46) ∨
    p i = pktOf bytes i

/-- A packet with a SYN was sent by someone. -/
def Genuine (wire : List (List UInt8)) : SlowAct → Prop
  | .segment p _ => tcphFlags p &&& tcpSyn = 0 ∨ ∃ bytes ∈ wire, Arrives bytes p
  | _ => True

/-- The fast path changes no number of a socket that shakes hands. -/
def FastQuiet (ctx : TcpSlowCtx) (act : SlowAct) : Prop :=
  act.isSlow = true ∨ ∀ i, i < ctx.nSocks → (ctx.sock i).state.shaking = true →
    sameSeq (ctx.sock i) ((slowNext ctx act).sock i) = true

def netOk (s : ShakeNet) : NetAct → Prop
  | .host h act => ListenIdle (s.hosts h) act ∧ Genuine s.wire act ∧ FastQuiet (s.hosts h) act
  | .transmit _ => True

instance (bytes : List UInt8) (p : Nat → UInt8) : Decidable (Arrives bytes p) :=
  inferInstanceAs (Decidable (∀ i, i < _ → _))

instance (wire : List (List UInt8)) (act : SlowAct) : Decidable (Genuine wire act) :=
  match act with
  | .segment .. => inferInstanceAs (Decidable (_ ∨ ∃ bytes ∈ wire, _))
  | .newSock .. | .setopt .. | .bind .. | .connect .. | .listen .. | .accept .. | .shutdown ..
  | .close _ | .timeout _ | .fastRx _ | .fastDeq _ | .fastSched _ | .drain _ =>
    inferInstanceAs (Decidable True)

instance (ctx : TcpSlowCtx) (act : SlowAct) : Decidable (FastQuiet ctx act) :=
  inferInstanceAs (Decidable (_ ∨ ∀ i, i < ctx.nSocks → _))

instance (s : ShakeNet) (act : NetAct) : Decidable (netOk s act) :=
  match act with
  | .host .. => inferInstanceAs (Decidable (_ ∧ _ ∧ _))
  | .transmit _ => inferInstanceAs (Decidable True)

/-- Every slow path right after `tcp_init`, nothing queued and nothing sent. -/
structure NetInit (s : ShakeNet) : Prop where
  hosts : ∀ h, SlowInit (s.hosts h)
  queued : ∀ h, (s.hosts h).slowFastPktQ.items = []
  wire : s.wire = []
  moved : ∀ h i, s.moved h i = false

/-! ## What is on the wire -/

/-- What `CtlSeg.SynStart` says, of the packet. -/
def SynBytes (bytes : List UInt8) : Prop :=
  tcphFlags (pktOf bytes) &&& tcpSyn ≠ 0 →
    tcpSeqno (pktOf bytes) = 1 ∨
      (tcphFlags (pktOf bytes) &&& tcpAck ≠ 0 ∧ tcpSeqno (pktOf bytes) = 0)

/-- A SYN-ACK was sent again, with number 0. -/
def Resent (wire : List (List UInt8)) : Prop :=
  ∃ bytes ∈ wire, tcphFlags (pktOf bytes) &&& (tcpSyn ||| tcpAck) = tcpSyn ||| tcpAck ∧
    tcpSeqno (pktOf bytes) = 0

instance (wire : List (List UInt8)) : Decidable (Resent wire) :=
  inferInstanceAs (Decidable (∃ bytes ∈ wire, _))

/-- The SYN and ACK bits are among the nine that are sent. -/
theorem and_mask_syn_ack (f : UInt16) :
    (f &&& 0x1ff) &&& tcpSyn = f &&& tcpSyn ∧ (f &&& 0x1ff) &&& tcpAck = f &&& tcpAck := by
  constructor
  · rw [UInt16.and_assoc]
    rfl
  · rw [UInt16.and_assoc]
    rfl

theorem tcphFlags_ctlPkt (c : CtlSeg) :
    tcphFlags (pktOf ((List.range ctlPktSize).map (ctlPktFill c))) = c.flags &&& 0x1ff :=
  (pktOf_ctlPkt_travels c).flags

theorem CtlSeg.SynStart.bytes {c : CtlSeg} (h : c.SynStart) :
    SynBytes ((List.range ctlPktSize).map (ctlPktFill c)) := by
  intro hsyn
  rw [tcphFlags_ctlPkt, (and_mask_syn_ack c.flags).1] at hsyn
  rw [tcpSeqno_ctlPkt, tcphFlags_ctlPkt, (and_mask_syn_ack c.flags).2]
  exact h hsyn

/-- A packet that arrives has the numbers and flags it was sent with. -/
theorem Arrives.hdr {c : CtlSeg} {p : Nat → UInt8}
    (h : Arrives ((List.range ctlPktSize).map (ctlPktFill c)) p) :
    tcphFlags p = tcphFlags (pktOf ((List.range ctlPktSize).map (ctlPktFill c))) ∧
    tcpSeqno p = tcpSeqno (pktOf ((List.range ctlPktSize).map (ctlPktFill c))) := by
  have hsent := pktOf_ctlPkt_travels c
  have hlen : 40 ≤ (ipLen (pktOf ((List.range ctlPktSize).map (ctlPktFill c)))).toNat := by
    unfold ipLen
    rw [hsent.fields.len]
    unfold CtlSeg.len
    split
    · decide
    · decide
  have hbyte : ∀ i, 20 ≤ i → i < 36 →
      p i = pktOf ((List.range ctlPktSize).map (ctlPktFill c)) i := by
    intro i hlo hi
    rcases h i (by omega) with h | h | h | h | h | h
    · omega
    · omega
    · omega
    · omega
    · omega
    · exact h
  constructor
  · unfold tcphFlags
    rw [be16_congr fun i hlo hi => hbyte i (by omega) (by omega)]
  · exact be32_congr fun i hlo hi => hbyte i (by omega) (by omega)

/-! ## The invariant -/

/-- An established socket of which no byte was moved. -/
structure Opened (wire : List (List UInt8)) (s : TcpSock) : Prop where
  txSeq : s.txSeq = 2
  txPending : s.txPending = 0
  rxSeq : s.rxSeq = 2 ∨ (s.rxSeq = 1 ∧ Resent wire)

structure ShakeInv (s : ShakeNet) : Prop where
  base : ∀ h, Base (s.hosts h)
  timers : ∀ h, TimerInv (s.hosts h)
  ok : ∀ h i, ShakeOk ((s.hosts h).sock i)
  queued : ∀ h, ∀ e ∈ (s.hosts h).slowFastPktQ.items, ∃ c : CtlSeg, e = c.entry ∧ c.SynStart
  wire : ∀ bytes ∈ s.wire, ∃ c : CtlSeg, bytes = (List.range ctlPktSize).map (ctlPktFill c) ∧
    c.SynStart
  opened : ∀ h i, ((s.hosts h).sock i).state = .established → s.moved h i = false →
    Opened s.wire ((s.hosts h).sock i)

theorem NetInit.inv {s : ShakeNet} (h : NetInit s) : ShakeInv s := by
  have hinit : ∀ k i, ((s.hosts k).sock i).state = .closed := by
    intro k i
    rw [(h.hosts k).socks i]
    rfl
  refine ⟨fun k => (h.hosts k).base, fun k => (h.hosts k).timers, ?_, ?_, ?_, ?_⟩
  · intro k i
    exact ⟨by rw [hinit]; nofun, by rw [hinit]; nofun, by rw [hinit]; nofun⟩
  · intro k e he
    rw [h.queued k] at he
    cases he
  · intro bytes hb
    rw [h.wire] at hb
    cases hb
  · intro k i hst
    rw [hinit] at hst
    cases hst

theorem Resent.mono {wire : List (List UInt8)} {bytes : List UInt8} (h : Resent wire) :
    Resent (bytes :: wire) := by
  obtain ⟨b, hb, hflags, hseq⟩ := h
  exact ⟨b, List.mem_cons_of_mem _ hb, hflags, hseq⟩

theorem Opened.mono {wire : List (List UInt8)} {bytes : List UInt8} {s : TcpSock}
    (h : Opened wire s) : Opened (bytes :: wire) s :=
  ⟨h.txSeq, h.txPending, h.rxSeq.imp_right fun hr => ⟨hr.1, hr.2.mono⟩⟩

theorem Opened.kept {wire : List (List UInt8)} {s t : TcpSock} (h : Opened wire s)
    (hs : SameSeq s t) : Opened wire t :=
  ⟨hs.txSeq.trans h.txSeq, hs.txPending.trans h.txPending,
    by rw [hs.rxSeq]; exact h.rxSeq⟩

section steps

variable {s : ShakeNet} {h : Nat} {act : SlowAct}

/-- A SYN that is delivered has number 1. -/
theorem ShakeInv.syn_one (hinv : ShakeInv s) (hgen : Genuine s.wire act) {seq : UInt32}
    (hsyn : act.DeliversSyn seq) : seq = 1 := by
  obtain ⟨p, core, rfl, hflags, hack, rfl⟩ := hsyn
  rcases hgen with hno | ⟨bytes, hmem, harr⟩
  · exact absurd hno hflags
  · obtain ⟨c, rfl, hstart⟩ := hinv.wire bytes hmem
    obtain ⟨hf, hs⟩ := harr.hdr
    rw [hf] at hflags hack
    rcases hstart.bytes hflags with hone | ⟨hne, -⟩
    · rw [hs, hone]
    · exact absurd hack hne

/-- A SYN-ACK that is delivered has number 1, or was sent again. -/
theorem ShakeInv.synack_one (hinv : ShakeInv s) (hgen : Genuine s.wire act) {seq : UInt32}
    (hsyn : act.DeliversSynack seq) : seq = 1 ∨ (seq = 0 ∧ Resent s.wire) := by
  obtain ⟨p, core, rfl, hflags, rfl⟩ := hsyn
  have hbit : tcphFlags p &&& tcpSyn ≠ 0 := by
    intro hz
    have hand : tcphFlags p &&& (tcpSyn ||| tcpAck) &&& tcpSyn = (tcpSyn ||| tcpAck) &&& tcpSyn := by
      rw [hflags]
    rw [UInt16.and_assoc, show (tcpSyn ||| tcpAck) &&& tcpSyn = tcpSyn by decide, hz] at hand
    exact absurd hand (by decide)
  rcases hgen with hno | ⟨bytes, hmem, harr⟩
  · exact absurd hno hbit
  · obtain ⟨c, rfl, hstart⟩ := hinv.wire bytes hmem
    obtain ⟨hf, hs⟩ := harr.hdr
    rw [hf] at hbit hflags
    rw [hs]
    rcases hstart.bytes hbit with hone | ⟨-, hzero⟩
    · exact .inl hone
    · exact .inr ⟨hzero, _, hmem, hflags, hzero⟩

theorem sameSeq_iff {a b : TcpSock} : sameSeq a b = true ↔ SameSeq a b := by
  unfold sameSeq
  rw [Bool.and_eq_true, Bool.and_eq_true, beq_iff_eq, beq_iff_eq, beq_iff_eq]
  exact ⟨fun hs => ⟨hs.1.1, hs.1.2, hs.2⟩, fun hs => ⟨⟨hs.txSeq, hs.txPending⟩, hs.rxSeq⟩⟩

/-- Only the slow path itself sends control packets. -/
theorem fast_pktQ (ctx : TcpSlowCtx) (hs : act.isSlow = false) {e : TcpQe}
    (he : e ∈ (slowNext ctx act).slowFastPktQ.items) : e ∈ ctx.slowFastPktQ.items := by
  cases act with
  | fastRx env => exact he
  | fastDeq env => exact he
  | fastSched env => exact he
  | drain q =>
    cases q with
    | pkt => exact List.mem_of_mem_tail he
    | sig => exact he
    | app appId ctxId => exact he
  | _ => cases hs

/-- What one event does at its host. -/
structure HostStep (s : ShakeNet) (h : Nat) (act : SlowAct) : Prop where
  ok : ∀ i, ShakeOk ((slowNext (s.hosts h) act).sock i)
  queued : ∀ e ∈ (slowNext (s.hosts h) act).slowFastPktQ.items, ∃ c : CtlSeg,
    e = c.entry ∧ c.SynStart
  opened : ∀ i, ((slowNext (s.hosts h) act).sock i).state = .established →
    s.moved h i = false →
    (act.isSlow = false → sameSeq ((s.hosts h).sock i) ((slowNext (s.hosts h) act).sock i) = true) →
    Opened s.wire ((slowNext (s.hosts h) act).sock i)

/-- **An event of a slow path.** -/
theorem ShakeInv.slow (hinv : ShakeInv s) (hgen : Genuine s.wire act) (hs : act.isSlow = true) :
    HostStep s h act := by
  have hshakes := (hinv.timers h).shakes (hinv.ok h) hs
  refine ⟨fun i => (hinv.ok h i).step (hshakes.socks i) fun seq => hinv.syn_one hgen,
    ?_, ?_⟩
  · intro e he
    obtain ⟨segs, hq, hsegs⟩ := hshakes.sends
    rw [hq] at he
    rcases List.mem_append.mp he with he | he
    · exact hinv.queued h e he
    · obtain ⟨c, hc, rfl⟩ := List.mem_map.mp he
      exact ⟨c, rfl, hsegs c hc⟩
  intro i hst hm _
  have hstep := hshakes.socks i
  generalize (slowNext (s.hosts h) act).sock i = t at hstep hst ⊢
  cases hstep with
  | kept hk => exact (hinv.opened h i (hk.state.symm.trans hst) hm).kept hk.toSameSeq
  | out _ hne => exact absurd hst hne
  | connect ht => rw [ht] at hst; cases hst
  | child _ ht => rw [ht] at hst; cases hst
  | @active seq hsyn hsent _ hseq hpend hrx =>
    obtain ⟨hseq₀, hpend₀⟩ := (hinv.ok h i).synSent hsent
    rw [hseq₀] at hseq
    rw [hpend₀] at hpend
    refine ⟨hseq, hpend, ?_⟩
    rcases hinv.synack_one hgen hsyn with hone | ⟨hzero, hre⟩
    · rw [hone] at hrx
      exact .inl hrx
    · rw [hzero] at hrx
      exact .inr ⟨hrx, hre⟩
  | passive _ ht => rw [ht] at hst; cases hst
  | accepted hpending _ hnum =>
    obtain ⟨hseq, hpend, hrx⟩ := (hinv.ok h i).acceptPending hpending
    exact ⟨hnum.txSeq.trans hseq, hnum.txPending.trans hpend, .inl (hnum.rxSeq.trans hrx)⟩

/-- **An event beside the slow path.** -/
theorem ShakeInv.fast (hinv : ShakeInv s) (hquiet : FastQuiet (s.hosts h) act)
    (hs : act.isSlow = false) : HostStep s h act := by
  have hstate := fast_state (s.hosts h) hs
  refine ⟨?_, fun e he => hinv.queued h e (fast_pktQ _ hs he), ?_⟩
  · intro i
    by_cases hshake : ((s.hosts h).sock i).state.shaking = true
    · have hlt : i < (s.hosts h).nSocks := by
        refine (hinv.base h).lt_of_state ?_ ?_
        · intro hc
          rw [hc] at hshake
          cases hshake
        · intro hc
          rw [hc] at hshake
          cases hshake
      have hsame := (hquiet.resolve_left (by rw [hs]; decide)) i hlt hshake
      exact (hinv.ok h i).kept ⟨sameSeq_iff.mp hsame, hstate i⟩
    · -- not a state the invariant speaks of
      rw [← hstate i] at hshake
      constructor
      all_goals (intro hst; rw [hst] at hshake; exact absurd rfl hshake)
  · intro i hst hm hsame
    exact (hinv.opened h i ((hstate i).symm.trans hst) hm).kept (sameSeq_iff.mp (hsame hs))

theorem ShakeInv.host (hinv : ShakeInv s) (hok : netOk s (.host h act)) :
    ShakeInv (netStep s (.host h act)).1 := by
  obtain ⟨hidle, hgen, hquiet⟩ := hok
  have hstep : HostStep s h act := by
    cases hs : act.isSlow with
    | true => exact hinv.slow hgen hs
    | false => exact hinv.fast hquiet hs
  have hhost : ∀ k, (netStep s (.host h act)).1.hosts k =
      if k = h then slowNext (s.hosts h) act else s.hosts k := fun _ => rfl
  refine ⟨?_, ?_, ?_, ?_, hinv.wire, ?_⟩
  · intro k
    rw [hhost k]
    split
    · exact (hinv.base h).next act
    · exact hinv.base k
  · intro k
    rw [hhost k]
    split
    · exact (hinv.timers h).next (hinv.base h) hidle
    · exact hinv.timers k
  · intro k i
    rw [hhost k]
    split
    · exact hstep.ok i
    · exact hinv.ok k i
  · intro k e he
    rw [hhost k] at he
    split at he
    · exact hstep.queued e he
    · exact hinv.queued k e he
  · intro k i hst hm
    rw [hhost k] at hst ⊢
    have hm' : (s.moved k i || (k == h && !act.isSlow &&
        !sameSeq ((s.hosts h).sock i) ((slowNext (s.hosts h) act).sock i))) = false := hm
    rw [Bool.or_eq_false_iff] at hm'
    split at hst
    · next hk =>
      subst hk
      rw [if_pos rfl]
      refine hstep.opened i hst hm'.1 fun hs => ?_
      have hsame := hm'.2
      rw [hs, beq_self_eq_true] at hsame
      simpa using hsame
    · next hk =>
      rw [if_neg hk]
      exact hinv.opened k i hst hm'.1

theorem ShakeInv.transmit (hinv : ShakeInv s) (h : Nat) :
    ShakeInv (netStep s (.transmit h)).1 := by
  unfold netStep
  dsimp only
  cases hhead : (s.hosts h).slowFastPktQ.head? with
  | none => exact hinv
  | some e =>
    obtain ⟨c, rfl, hstart⟩ := hinv.queued h e (by
      rw [Fifo.head_cons hhead]
      exact List.mem_cons_self)
    dsimp only [CtlSeg.entry]
    -- taking a packet changes nothing but the queues
    have hsame : Same (s.hosts h) (ctlTaken (s.hosts h)) :=
      @Same.of_fields (s.hosts h) (ctlTaken (s.hosts h)) rfl rfl rfl rfl rfl rfl
    have hhost : ∀ k, (s.setHost h (ctlTaken (s.hosts h))).hosts k =
        if k = h then ctlTaken (s.hosts h) else s.hosts k := fun _ => rfl
    have hsock : ∀ k i, ((s.setHost h (ctlTaken (s.hosts h))).hosts k).sock i =
        (s.hosts k).sock i := by
      intro k i
      rw [hhost k]
      split
      · next hk =>
        rw [hk]
        rfl
      · rfl
    refine ⟨?_, ?_, ?_, ?_, ?_, ?_⟩
    · intro k
      rw [hhost k]
      split
      · exact (hinv.base h).same hsame.toSameCore
      · exact hinv.base k
    · intro k
      rw [hhost k]
      split
      · exact (hinv.timers h).same (hsame.tm rfl rfl)
      · exact hinv.timers k
    · intro k i
      rw [hsock k i]
      exact hinv.ok k i
    · intro k e he
      rw [hhost k] at he
      split at he
      · exact hinv.queued h e (List.mem_of_mem_tail he)
      · exact hinv.queued k e he
    · intro bytes hb
      rcases List.mem_cons.mp hb with rfl | hb
      · exact ⟨c, rfl, hstart⟩
      · exact hinv.wire bytes hb
    · intro k i hst hm
      rw [hsock k i] at hst ⊢
      exact (hinv.opened k i hst hm).mono

theorem netStep_inv (hinv : ShakeInv s) {act : NetAct} (hok : netOk s act) :
    ShakeInv (netStep s act).1 := by
  cases act with
  | host h act => exact hinv.host hok
  | transmit h => exact hinv.transmit h

end steps

/-! ## Agreement -/

/-- What a client and a server know of each other before any byte is moved. -/
structure Agreed (wire : List (List UInt8)) (client server : TcpSock) : Prop where
  /-- The server expects what the client sends next. -/
  toServer : server.state ≠ .established → server.rxSeq = client.txSeq + client.txPending
  /-- Unless a SYN-ACK was sent again, each expects what the other sends next,
  and the server takes the acknowledgement of the client. -/
  both : ¬ Resent wire → client.rxSeq = server.txSeq + server.txPending ∧
    server.rxSeq = client.txSeq + client.txPending ∧ sockAckValid server client.rxSeq = true
  /-- If one was, the client may be one behind. -/
  toClient : client.rxSeq = server.txSeq + server.txPending ∨
    (Resent wire ∧ client.rxSeq + 1 = server.txSeq + server.txPending)

/-- **The handshake agrees**, in every state of every run: any client that is
established and any server socket of any host that has got a SYN, as long as
the fast path has moved no bytes of the two. -/
theorem handshake_agrees {s₀ s : ShakeNet} {log : List Unit} (h₀ : NetInit s₀)
    (hr : Run netOk netStep s₀ log s) {a b i j : Nat}
    (hi : ((s.hosts a).sock i).state = .established) (hmi : s.moved a i = false)
    (hj : ((s.hosts b).sock j).state = .synRecv ∨ ((s.hosts b).sock j).state = .acceptPending ∨
      ((s.hosts b).sock j).state = .established) (hmj : s.moved b j = false) :
    Agreed s.wire ((s.hosts a).sock i) ((s.hosts b).sock j) := by
  have hinv : ShakeInv s :=
    Run.inv (I := fun _ s => ShakeInv s) h₀.inv (fun _ _ _ hs hok => netStep_inv hs hok) hr
  have hclient := hinv.opened a i hi hmi
  -- whatever state the server is in, its next number is 2
  have hserver : ((s.hosts b).sock j).txSeq + ((s.hosts b).sock j).txPending = 2 ∧
      (((s.hosts b).sock j).rxSeq = 2 ∨
        (((s.hosts b).sock j).state = .established ∧ Resent s.wire)) := by
    rcases hj with hj | hj | hj
    · obtain ⟨hseq, hpend, hrx⟩ := (hinv.ok b j).synRecv hj
      rw [hseq, hpend]
      exact ⟨rfl, .inl hrx⟩
    · obtain ⟨hseq, hpend, hrx⟩ := (hinv.ok b j).acceptPending hj
      rw [hseq, hpend]
      exact ⟨rfl, .inl hrx⟩
    · have hopen := hinv.opened b j hj hmj
      rw [hopen.txSeq, hopen.txPending]
      exact ⟨rfl, hopen.rxSeq.imp_right fun hre => ⟨hj, hre.2⟩⟩
  obtain ⟨hnext, hexpect⟩ := hserver
  have hsent : ((s.hosts a).sock i).txSeq + ((s.hosts a).sock i).txPending = 2 := by
    rw [hclient.txSeq, hclient.txPending]
    rfl
  refine ⟨?_, ?_, ?_⟩
  · intro hne
    rw [hsent]
    exact hexpect.resolve_right fun hre => hne hre.1
  · intro hno
    have hrx := hclient.rxSeq.resolve_right fun hre => hno hre.2
    have hrxServer := hexpect.resolve_right fun hre => hno hre.2
    unfold sockAckValid
    rw [hnext, hsent, hrx, hrxServer]
    exact ⟨rfl, rfl, rfl⟩
  · rw [hnext]
    refine hclient.rxSeq.imp_right fun hre => ⟨hre.2, ?_⟩
    rw [hre.1]
    rfl

/-! ## Two hosts -/

/-- Two hosts right after `tcp_init`. -/
def twoHosts : ShakeNet :=
  { hosts := fun h => if h = 1 then { freshSlow with localIp := 0x0a000002 } else freshSlow
    wire := []
    moved := fun _ _ => false }

theorem twoHosts_init : NetInit twoHosts := by
  refine ⟨?_, ?_, rfl, fun _ _ => rfl⟩
  · intro h
    unfold twoHosts
    dsimp only
    split
    · exact ⟨rfl, fun _ => rfl, rfl, fun _ _ => rfl, rfl, fun _ => rfl, fun _ => rfl, fun _ => rfl,
        fun _ => rfl⟩
    · exact freshSlow_init
  · intro h
    unfold twoHosts
    dsimp only
    split
    · rfl
    · rfl

/-- The SYN of the client and the SYN-ACK of the server, with number `seq`. -/
def clientSyn : CtlSeg :=
  { localIp := 0x0a000001, localPort := 1002, remoteIp := 0x0a000002, remotePort := 1080, seq := 1
    ack := 0, flags := tcpSyn, wnd := 4096, tsRecent := some 0 }

def serverSynack (seq : UInt32) : CtlSeg :=
  { localIp := 0x0a000002, localPort := 1080, remoteIp := 0x0a000001, remotePort := 1002, seq
    ack := 2, flags := tcpSyn ||| tcpAck, wnd := 4096, tsRecent := some 0 }

/-- Host 1 listens, host 0 connects, and the SYN is delivered. -/
def synRun : List NetAct :=
  [.host 1 (.newSock 0 0 0), .host 1 (.bind 0 0 0 0x0a000002 1080 0),
    .host 1 (.listen 0 0 0 4 0 true), .host 0 (.newSock 0 0 0),
    .host 0 (.connect 0 0 0 0x0a000002 1080 0), .transmit 0,
    .host 1 (.segment (ctlPktFill clientSyn) 0)]

/-- The client is established, the server waits for its acknowledgement. -/
def openRun : List NetAct :=
  synRun ++ [.transmit 1, .host 0 (.segment (ctlPktFill (serverSynack 1)) 0)]

/-- After the handshake of two hosts. -/
theorem handshake_agrees_two_hosts :
    let s := (execAll netStep openRun twoHosts).2
    ((s.hosts 0).sock 0).state = .established ∧ ((s.hosts 1).sock 1).state = .synRecv ∧
      Agreed s.wire ((s.hosts 0).sock 0) ((s.hosts 1).sock 1) :=
  ⟨by decide +kernel, by decide +kernel,
    handshake_agrees twoHosts_init (Run.execOk openRun Run.nil (by decide +kernel))
      (by decide +kernel) (by decide +kernel) (.inl (by decide +kernel)) (by decide +kernel)⟩

/-- The SYN is delivered twice, and the second SYN-ACK is the one that
arrives. -/
def resentRun : List NetAct :=
  synRun ++ [.host 1 (.segment (ctlPktFill clientSyn) 0), .transmit 1, .transmit 1,
    .host 0 (.segment (ctlPktFill (serverSynack 0)) 0)]

/-- The client that takes the SYN-ACK that was sent again is one behind, and
its acknowledgement is one the server does not take. -/
theorem handshake_off_by_one :
    ∃ log s, Run netOk netStep twoHosts log s ∧ ((s.hosts 0).sock 0).state = .established ∧
      s.moved 0 0 = false ∧ ((s.hosts 1).sock 1).state = .synRecv ∧
      sockAckValid ((s.hosts 1).sock 1) ((s.hosts 0).sock 0).rxSeq = false :=
  ⟨_, _, Run.execOk resentRun Run.nil (by decide +kernel), by decide +kernel, by decide +kernel,
    by decide +kernel, by decide +kernel⟩

end Chamelio.Tcp
