import Chamelio.Tcp.SchedTimes
import Chamelio.Tcp.SockFrame
import Chamelio.Tcp.TimerInv

/-!
# Who emits data

`tcp_event_sched` sends for the socket at the head of its core's scheduler.
It looks at neither the state of the socket nor where it is sent to, so a
packet belongs to an established connection only if every entry of every
scheduler does. The fast path adds entries for established sockets when a
segment comes in; but `deq_handle_bump_tx` and `deq_handle_retransmit` add
one for whatever socket their queue entry names, a transmit bump may name a
new remote address, and the slow path leaves the entries of a socket alone
when it takes the socket out of `ESTABLISHED`.

Mirroring notes:
- Every core has a scheduler of its own (`scheds`); an event of the fast path
  runs on the one of its core.
- `peer` is no part of the program: the address each connection had when it
  opened.
-/

namespace Chamelio.Tcp

open Chamelio.Lib Chamelio.Util Chamelio.Pkt Chamelio.Fast

/-! ## Entries of the scheduler -/

/-- Every entry satisfies `p`. -/
def SchedAll (p : UInt32 → Prop) (s : Util.Sched) : Prop := ∃ l, SchedRep s l ∧ ∀ x ∈ l, p x

section sched

variable {p : UInt32 → Prop} {ctx : TcpCtx} {sid : Nat}

theorem SchedAll.add {s : Util.Sched} {id : UInt32} (h : SchedAll p s) (hp : p id)
    (hb : id.toNat < maxSchedEntries) (prio : UInt64) (avail : UInt32) :
    SchedAll p (schedAdd s id prio avail).1 :=
  EntriesAll.add (q := fun x _ => p x) h hp hb avail

/-- The head is one of the entries, and popping it leaves the others. -/
theorem SchedAll.head {s : Util.Sched} {entry : SchedEntry} (h : SchedAll p s)
    (he : schedHead s = some entry) : p entry.id ∧ SchedAll p (schedPop s).1 := by
  obtain ⟨hp, -, hpop⟩ := EntriesAll.head (q := fun x _ => p x) h he
  exact ⟨hp, hpop.mono (fun _ _ _ hx => hx.1)⟩

theorem SchedAll.mono {q : UInt32 → Prop} {s : Util.Sched} (h : SchedAll p s)
    (hpq : ∀ x, s.InList x → p x → q x) : SchedAll q s :=
  EntriesAll.mono (q := fun x _ => p x) h (fun x _ hx => hpq x hx)

/-! ## The handlers -/

/-- The entry of the socket satisfies `p`. -/
structure MayAdd (p : UInt32 → Prop) (s : TcpSock) : Prop where
  ok : p s.id
  bound : s.id.toNat < maxSchedEntries

theorem MayAdd.congr {s s' : TcpSock} (h : MayAdd p s) (hid : s'.id = s.id) : MayAdd p s' := by
  refine ⟨?_, ?_⟩
  · rw [hid]
    exact h.ok
  · rw [hid]
    exact h.bound

theorem MayAdd.paced {s : TcpSock} (h : MayAdd p s) : PacedAdd (fun x _ => p x) s.pace :=
  ⟨h.bound, fun _ _ => h.ok⟩

theorem MayAdd.free {s : TcpSock} (h : MayAdd p s) : FreeAdd (fun x _ => p x) s.pace :=
  ⟨h.bound, fun _ => h.ok⟩

/-- A segment adds the entry of an established socket, if any. -/
theorem schedAll_tcpEventRx (h : SchedAll p ctx.sched)
    (hp : ∀ sid, sockFind ctx = some sid → (sockOf ctx sid).state = .established →
      MayAdd p (sockOf ctx sid)) : SchedAll p (tcpEventRx ctx).1.sched := by
  refine entriesAll_tcpEventRx (q := fun x _ => p x) h (fun sid hf hst => (hp sid hf hst).paced) ?_
  intro sid hre
  obtain ⟨hf, hst⟩ := rxRemits_some hre
  exact (hp sid hf hst).free

/-- An entry of a queue adds the entry of the socket it names. -/
theorem schedAll_tcpEventDeq (h : SchedAll p ctx.sched)
    (htx : ∀ sockId txPort txIp txAvail, ctx.qe = .bumpChamTx sockId txPort txIp txAvail →
      sockId.toNat < ctx.maps.sockNelems → MayAdd p (sockOf ctx sockId.toNat))
    (hre : ∀ sockId txSeq txPending, ctx.qe = .txRetransmit sockId txSeq txPending →
      sockId.toNat < ctx.maps.sockNelems →
      deqIsRetransmitStale (sockOf ctx sockId.toNat) txSeq txPending = false →
      MayAdd p (sockOf ctx sockId.toNat)) : SchedAll p (tcpEventDeq ctx).1.sched := by
  refine entriesAll_tcpEventDeq (q := fun x _ => p x) h
    (fun sockId txPort txIp txAvail hqe hlt => (htx sockId txPort txIp txAvail hqe hlt).paced) ?_
  intro sid hremit
  obtain ⟨sockId, txSeq, txPending, hqe, rfl, hlt, hstale⟩ := deqRemits_some hremit
  exact (hre sockId txSeq txPending hqe hlt hstale).free

/-- A socket that sends stays or leaves. -/
theorem schedAll_txSend (nowTsc : UInt64) (h : SchedAll p ctx.sched)
    (hp : MayAdd p (sockOf ctx sid)) : SchedAll p (txSend ctx sid nowTsc).1.sched := by
  unfold txSend
  split
  · exact h
  · dsimp only
    generalize txGetTxBump (sockOf ctx sid) _ = b
    split
    · exact h
    · have hfill : SchedAll p (txFillHdr ctx sid txGetHdrlen b).sched := by
        rw [txFillHdr_sched]
        exact h
      have hid : (sockOf (txFillHdr ctx sid txGetHdrlen b) sid).id = (sockOf ctx sid).id :=
        (congrArg TcpSock.id ((quiet_txFillHdr ctx sid txGetHdrlen b).socks sid) :)
      have hmay := hp.congr hid
      split
      · obtain ⟨-, ⟨prio, hs⟩, -, -⟩ :=
          txSendPayload_spec (txFillHdr ctx sid txGetHdrlen b) sid txGetHdrlen b nowTsc
        rw [hs]
        split
        · exact hfill.add hmay.ok hmay.bound _ _
        · exact hfill
      · exact hfill

theorem schedAll_tcpEventSched (h : SchedAll p ctx.sched)
    (hp : ∀ id, p id → id.toNat < ctx.maps.sockNelems → MayAdd p (sockOf ctx id.toNat)) :
    SchedAll p (tcpEventSched ctx).1.sched := by
  unfold tcpEventSched
  cases he : schedHead ctx.sched with
  | none => exact h
  | some entry =>
    dsimp only
    obtain ⟨hentry, hpop⟩ := h.head he
    split
    · exact h
    · split
      · exact hpop
      · unfold sockMapLookup
        by_cases hge : entry.id.toNat ≥ ctx.maps.sockNelems
        · rw [if_pos hge]
          exact hpop
        · rw [if_neg hge]
          exact schedAll_txSend _ hpop (hp entry.id hentry (Nat.lt_of_not_le hge))

end sched

/-! ## The packet -/

section packet

theorem txFillHdr_pkt (ctx : TcpCtx) (sid : Nat) (hdrlen paylen : UInt32) :
    (txFillHdr ctx sid hdrlen paylen).pkt =
      txHdrBytes ctx.pkt (sockOf ctx sid) hdrlen paylen (tcpNowUs ctx).1 := by
  unfold txFillHdr
  dsimp only
  split
  · rfl
  · rfl

/-- The header names the remote address of the socket. -/
theorem txFillHdr_dest (ctx : TcpCtx) (sid : Nat) (hdrlen paylen : UInt32) :
    ipDst (txFillHdr ctx sid hdrlen paylen).pkt = (sockOf ctx sid).remoteIp ∧
    tcpDest (txFillHdr ctx sid hdrlen paylen).pkt = (sockOf ctx sid).remotePort := by
  rw [txFillHdr_pkt]
  unfold ipDst tcpDest txHdrBytes txWriteTsopt
  dsimp only
  constructor
  · refine (be32_congr ?_).trans (be32_put32 ?_ 16 _)
    intro i hlo hhi
    rw [put16_out _ _ (by omega), put32_out _ _ (by omega), put32_out _ _ (by omega),
      put8_ne _ _ (by omega), put8_ne _ _ (by omega), put16_out _ _ (by omega),
      put16_out _ _ (by omega), put16_out _ _ (by omega), put16_out _ _ (by omega),
      put32_out _ _ (by omega), put32_out _ _ (by omega), put16_out _ _ (by omega),
      put16_out _ _ (by omega)]
    -- the ECN bits are in byte 1
    split
    · rw [put8_ne _ _ (by omega)]
    · rfl
  · refine (be16_congr ?_).trans (be16_put16 ?_ 22 _)
    intro i hlo hhi
    rw [put16_out _ _ (by omega), put32_out _ _ (by omega), put32_out _ _ (by omega),
      put8_ne _ _ (by omega), put8_ne _ _ (by omega), put16_out _ _ (by omega),
      put16_out _ _ (by omega), put16_out _ _ (by omega), put16_out _ _ (by omega),
      put32_out _ _ (by omega), put32_out _ _ (by omega)]

/-- The payload is copied behind the header. -/
theorem txCopyPayload_hdr (ctx : TcpCtx) (sock : TcpSock) (txBump : UInt32) {i : Nat}
    (hi : i < 52) : (txCopyPayload ctx sock txGetHdrlen txBump).pkt i = ctx.pkt i := by
  have h52 : txGetHdrlen.toNat = 52 := rfl
  unfold txCopyPayload
  dsimp only
  split
  · dsimp only
    rw [blit_out (.inl (by omega))]
  · dsimp only
    rw [blit_out (.inl (by omega)), blit_out (.inl (by omega))]

/-- What a socket sends is addressed to its peer. -/
theorem txSend_dest {ctx : TcpCtx} {sid n : Nat} {nowTsc : UInt64}
    (h : (txSend ctx sid nowTsc).2 = .ok n) :
    ipDst (txSend ctx sid nowTsc).1.pkt = (sockOf ctx sid).remoteIp ∧
    tcpDest (txSend ctx sid nowTsc).1.pkt = (sockOf ctx sid).remotePort := by
  unfold txSend at h ⊢
  split
  · next hlen =>
    rw [if_pos hlen] at h
    cases h
  · next hlen =>
    rw [if_neg hlen] at h
    dsimp only at h ⊢
    generalize txGetTxBump (sockOf ctx sid) _ = b at h ⊢
    split
    · next hval =>
      rw [if_pos hval] at h
      cases h
    · have hdest := txFillHdr_dest ctx sid txGetHdrlen b
      split
      · obtain ⟨-, -, -, hpkt⟩ :=
          txSendPayload_spec (txFillHdr ctx sid txGetHdrlen b) sid txGetHdrlen b nowTsc
        rw [hpkt]
        unfold ipDst tcpDest at hdest ⊢
        rw [be32_congr (fun i _ _ => txCopyPayload_hdr _ _ b (by omega)),
          be16_congr (fun i _ _ => txCopyPayload_hdr _ _ b (by omega))]
        exact hdest
      · exact hdest

/-- **A packet of `tcp_event_sched`** belongs to the socket at the head of
the scheduler. -/
theorem tcpEventSched_dest {ctx : TcpCtx} {n : Nat} (h : (tcpEventSched ctx).2 = .ok n)
    (hn : n ≠ 0) :
    ∃ entry, schedHead ctx.sched = some entry ∧ entry.id.toNat < ctx.maps.sockNelems ∧
      ipDst (tcpEventSched ctx).1.pkt = (sockOf ctx entry.id.toNat).remoteIp ∧
      tcpDest (tcpEventSched ctx).1.pkt = (sockOf ctx entry.id.toNat).remotePort := by
  have hzero : ∀ {m : Nat}, (Except.ok 0 : Ret) = .ok m → m = 0 := by
    intro m hm
    cases hm
    rfl
  unfold tcpEventSched at h ⊢
  cases he : schedHead ctx.sched with
  | none =>
    rw [he] at h
    exact absurd (hzero h) hn
  | some entry =>
    rw [he] at h
    dsimp only at h ⊢
    split
    · next hprio =>
      rw [if_pos hprio] at h
      exact absurd (hzero h) hn
    · next hprio =>
      rw [if_neg hprio] at h
      split
      · next hret =>
        rw [if_pos hret] at h
        cases h
      · next hret =>
        rw [if_neg hret] at h
        unfold sockMapLookup at h ⊢
        dsimp only at h ⊢
        by_cases hge : entry.id.toNat ≥ ctx.maps.sockNelems
        · rw [if_pos hge] at h
          cases h
        · rw [if_neg hge] at h ⊢
          exact ⟨entry, rfl, Nat.lt_of_not_le hge, txSend_dest h⟩

end packet

/-! ## Every run -/

/-- The slow path and the fast-path cores, with the peer of each
connection. -/
structure Emitter where
  ctx : TcpSlowCtx
  scheds : Nat → Util.Sched
  peer : Nat → UInt32 × UInt16

/-- An event of the fast path on the scheduler of its core. -/
def SlowAct.onScheds (scheds : Nat → Util.Sched) : SlowAct → SlowAct
  | .fastRx env => .fastRx { env with sched := scheds env.core.toNat }
  | .fastDeq env => .fastDeq { env with sched := scheds env.core.toNat }
  | .fastSched env => .fastSched { env with sched := scheds env.core.toNat }
  | act => act

def setSched (scheds : Nat → Util.Sched) (core : Nat) (s : Util.Sched) : Nat → Util.Sched :=
  fun c => if c = core then s else scheds c

/-- The schedulers after an event. -/
def schedsNext (ctx : TcpSlowCtx) (scheds : Nat → Util.Sched) : SlowAct → Nat → Util.Sched
  | .fastRx env => setSched scheds env.core.toNat (tcpEventRx (fastWith env ctx)).1.sched
  | .fastDeq env => setSched scheds env.core.toNat (tcpEventDeq (fastWith env ctx)).1.sched
  | .fastSched env => setSched scheds env.core.toNat (tcpEventSched (fastWith env ctx)).1.sched
  | _ => scheds

def emitStep (g : Emitter) (act : SlowAct) : Emitter × Unit :=
  let act := act.onScheds g.scheds
  let ctx := slowNext g.ctx act
  ({ ctx
     scheds := schedsNext g.ctx g.scheds act
     peer := fun i => if opensNow g.ctx i act then
       ((ctx.sock i).remoteIp, (ctx.sock i).remotePort) else g.peer i }, ())

/-- After `tcp_init` the schedulers are empty. -/
structure EmitInit (g : Emitter) : Prop where
  slow : SlowInit g.ctx
  sched : ∀ core, g.scheds core = schedInit

/-- An entry of a queue that adds to a scheduler names an established socket
and no address but that of its peer. -/
def DeqOk (ctx : TcpSlowCtx) : TcpQe → Prop
  | .bumpChamTx sockId txPort txIp _ => sockId.toNat < ctx.maps.sockNelems →
    (ctx.sock sockId.toNat).state = .established ∧
      (txIp = 0 ∨ txIp = (ctx.sock sockId.toNat).remoteIp) ∧
      (txPort = 0 ∨ txPort = (ctx.sock sockId.toNat).remotePort)
  | .txRetransmit sockId txSeq txPending => sockId.toNat < ctx.maps.sockNelems →
    deqIsRetransmitStale (ctx.sock sockId.toNat) txSeq txPending = false →
    (ctx.sock sockId.toNat).state = .established
  | _ => True

/-- No event shuts an established socket that a scheduler still has an entry
for, and the entries of the queues are `DeqOk`. -/
structure EmitOk (g : Emitter) (act : SlowAct) : Prop where
  idle : ∀ i core, (g.ctx.sock i).state = .established →
    (g.scheds core).InList (g.ctx.sock i).id → ¬Ends g.ctx i act
  deq : ∀ env, act = .fastDeq env → DeqOk g.ctx env.qe

/-- What `tcp_event_sched` sends on core `env.core` is of an established
connection, and for its peer. -/
def EmitsEstablished (g : Emitter) (env : TcpCtx) : Prop :=
  let ctx := fastWith { env with sched := g.scheds env.core.toNat } g.ctx
  ∀ n, (tcpEventSched ctx).2 = .ok n → n ≠ 0 →
    ∃ entry, schedHead (g.scheds env.core.toNat) = some entry ∧
      (g.ctx.sock entry.id.toNat).state = .established ∧
      (ipDst (tcpEventSched ctx).1.pkt, tcpDest (tcpEventSched ctx).1.pkt) =
        g.peer entry.id.toNat

/-- The id is that of an established socket. -/
def Est (ctx : TcpSlowCtx) (id : UInt32) : Prop := (ctx.sock id.toNat).state = .established

structure EmitInv (g : Emitter) : Prop where
  base : Base g.ctx
  sched : ∀ core, SchedAll (Est g.ctx) (g.scheds core)
  peer : ∀ i, isOpen (g.ctx.sock i).state = true →
    g.peer i = ((g.ctx.sock i).remoteIp, (g.ctx.sock i).remotePort)

section runs

variable {g : Emitter} {act : SlowAct}

theorem Base.est_lt {ctx : TcpSlowCtx} (h : Base ctx) {i : Nat}
    (hst : (ctx.sock i).state = .established) : i < ctx.nSocks := by
  apply h.lt_of_state
  · rw [hst]
    exact SockState.noConfusion
  · rw [hst]
    exact SockState.noConfusion

theorem Base.mayAdd {ctx : TcpSlowCtx} (h : Base ctx) {i : Nat}
    (hst : (ctx.sock i).state = .established) : MayAdd (Est ctx) (ctx.sock i) := by
  have hlt := h.est_lt hst
  have hid := h.toNat_id hlt
  refine ⟨?_, ?_⟩
  · unfold Est
    rw [hid]
    exact hst
  · rw [hid]
    have := h.lt hlt
    unfold maxSockets at this
    unfold maxSchedEntries
    omega

/-- An event that changes no state takes no socket out of a scheduler. -/
theorem Est.kept {s : Util.Sched}
    (hstate : ∀ i, ((slowNext g.ctx act).sock i).state = (g.ctx.sock i).state)
    (hs : SchedAll (Est g.ctx) s) : SchedAll (Est (slowNext g.ctx act)) s := by
  refine hs.mono ?_
  intro x _ hx
  unfold Est at hx ⊢
  rw [hstate]
  exact hx

/-- An event of the fast path on one core, from what it does to that core's
scheduler. -/
theorem EmitInv.core (h : EmitInv g) {core : Nat} {s : Util.Sched}
    (hstate : ∀ i, ((slowNext g.ctx act).sock i).state = (g.ctx.sock i).state)
    (hs : SchedAll (Est g.ctx) s) (c : Nat) :
    SchedAll (Est (slowNext g.ctx act)) (setSched g.scheds core s c) := by
  unfold setSched
  split
  · exact Est.kept hstate hs
  · exact Est.kept hstate (h.sched c)

/-- The peers, after an event that keeps states and remote addresses of open
sockets. -/
theorem EmitInv.peers (h : EmitInv g)
    (hkeep : ∀ i, isOpen (g.ctx.sock i).state = true →
      isOpen ((slowNext g.ctx act).sock i).state = true →
      ((slowNext g.ctx act).sock i).remoteIp = (g.ctx.sock i).remoteIp ∧
      ((slowNext g.ctx act).sock i).remotePort = (g.ctx.sock i).remotePort)
    (i : Nat) (hi : isOpen ((slowNext g.ctx act).sock i).state = true) :
    (if opensNow g.ctx i act then
      (((slowNext g.ctx act).sock i).remoteIp, ((slowNext g.ctx act).sock i).remotePort)
      else g.peer i) =
    (((slowNext g.ctx act).sock i).remoteIp, ((slowNext g.ctx act).sock i).remotePort) := by
  cases hopen : isOpen (g.ctx.sock i).state with
  | false =>
    have hyes : opensNow g.ctx i act = true := by
      unfold opensNow
      rw [hopen, hi]
      rfl
    rw [hyes, if_pos rfl]
  | true =>
    have hno : opensNow g.ctx i act = false := by
      unfold opensNow
      rw [hopen]
      rfl
    obtain ⟨hip, hport⟩ := hkeep i hopen hi
    rw [hno, if_neg Bool.false_ne_true, h.peer i hopen, hip, hport]

theorem EmitInv.slow (h : EmitInv g) (hok : EmitOk g act) (hs : act.isSlow = true) :
    EmitInv (emitStep g act).1 := by
  have hon : act.onScheds g.scheds = act := by
    cases act with
    | fastRx env => cases hs
    | fastDeq env => cases hs
    | fastSched env => cases hs
    | _ => rfl
  have hsch : schedsNext g.ctx g.scheds act = g.scheds := by
    cases act with
    | fastRx env => cases hs
    | fastDeq env => cases hs
    | fastSched env => cases hs
    | _ => rfl
  have hfate := h.base.fates hs
  unfold emitStep
  dsimp only
  rw [hon, hsch]
  refine ⟨h.base.next act, ?_, h.peers ?_⟩
  · intro core
    refine (h.sched core).mono ?_
    intro x hx hest
    unfold Est at hest ⊢
    have hopen : isOpen (g.ctx.sock x.toNat).state = true := by
      rw [hest]
      rfl
    rcases hfate x.toNat with hk | ⟨hc, -⟩ | hc | ⟨he, -⟩
    · rw [hk.state]
      exact hest
    · rw [hest] at hc
      cases hc
    · rw [hopen] at hc
      cases hc
    · -- The event would shut a socket with an entry.
      have hid : (g.ctx.sock x.toNat).id = x := by
        rw [h.base.id _ (h.base.est_lt hest), UInt32.ofNat_toNat]
      exact absurd he (hok.idle x.toNat core hest (by rw [hid]; exact hx))
  · intro i hopen hi
    rcases hfate i with hk | ⟨-, -, -, hip, hport⟩ | hc | ⟨-, hc⟩
    · exact ⟨hk.remoteIp, hk.remotePort⟩
    · exact ⟨hip, hport⟩
    · rw [hopen] at hc
      cases hc
    · rw [hi] at hc
      cases hc

/-- A transmit bump for an established socket that names its peer or no
address. -/
theorem DeqOk.remote {ctx : TcpSlowCtx} {env : TcpCtx} (h : DeqOk ctx env.qe) (i : Nat) :
    ((slowNext ctx (.fastDeq env)).sock i).remoteIp = (ctx.sock i).remoteIp ∧
    ((slowNext ctx (.fastDeq env)).sock i).remotePort = (ctx.sock i).remotePort := by
  have hkeys : ∀ {s t : TcpSock}, t.key = s.key →
      t.remoteIp = s.remoteIp ∧ t.remotePort = s.remotePort :=
    fun hk => ⟨congrArg SockKey.remoteIp hk, congrArg SockKey.remotePort hk⟩
  show (sockOf (tcpEventDeq (fastWith env ctx)).1 i).remoteIp = _ ∧
    (sockOf (tcpEventDeq (fastWith env ctx)).1 i).remotePort = _
  rcases tcpEventDeq_keys (fastWith env ctx) with hs | ⟨sockId, txPort, txIp, txAvail, hqe, hlt, hs⟩
  · exact hkeys (hs.key i)
  · rw [show env.qe = .bumpChamTx sockId txPort txIp txAvail from hqe] at h
    obtain ⟨-, hip, hport⟩ := h hlt
    obtain ⟨h₁, h₂⟩ := hkeys (hs.key i)
    rw [h₁, h₂]
    by_cases hi : i = sockId.toNat
    · rw [hi, sockOf_setSock]
      show deqGetTxIp (ctx.sock sockId.toNat) txIp = _ ∧
        deqGetTxPort (ctx.sock sockId.toNat) txPort = _
      unfold deqGetTxIp deqGetTxPort
      constructor
      · split
        · rfl
        · next hne => exact hip.resolve_left hne
      · split
        · rfl
        · next hne => exact hport.resolve_left hne
    · rw [sockOf_setSock_ne _ _ hi]
      exact ⟨rfl, rfl⟩

theorem EmitInv.next (h : EmitInv g) (hok : EmitOk g act) : EmitInv (emitStep g act).1 := by
  have hest : ∀ sid, (g.ctx.sock sid).state = .established →
      MayAdd (Est g.ctx) (g.ctx.sock sid) := fun sid hst => h.base.mayAdd hst
  cases act with
  | fastRx env =>
    refine ⟨h.base.next (.fastRx { env with sched := g.scheds env.core.toNat }),
      h.core (fast_state g.ctx rfl) ?_, h.peers ?_⟩
    · exact schedAll_tcpEventRx (h.sched env.core.toNat) (fun sid _ hst => hest sid hst)
    · intro i _ _
      have hk := (same_fastRx g.ctx { env with sched := g.scheds env.core.toNat }).key i
      exact ⟨congrArg SockKey.remoteIp hk, congrArg SockKey.remotePort hk⟩
  | fastDeq env =>
    have hdeq := hok.deq env rfl
    refine ⟨h.base.next (.fastDeq { env with sched := g.scheds env.core.toNat }),
      h.core (fast_state g.ctx rfl) ?_, h.peers ?_⟩
    · refine schedAll_tcpEventDeq (h.sched env.core.toNat) ?_ ?_
      · intro sockId txPort txIp txAvail hqe hlt
        rw [show env.qe = .bumpChamTx sockId txPort txIp txAvail from hqe] at hdeq
        exact hest _ (hdeq hlt).1
      · intro sockId txSeq txPending hqe hlt hstale
        rw [show env.qe = .txRetransmit sockId txSeq txPending from hqe] at hdeq
        exact hest _ (hdeq hlt hstale)
    · intro i _ _
      exact @DeqOk.remote g.ctx { env with sched := g.scheds env.core.toNat } hdeq i
  | fastSched env =>
    refine ⟨h.base.next (.fastSched { env with sched := g.scheds env.core.toNat }),
      h.core (fast_state g.ctx rfl) ?_, h.peers ?_⟩
    · exact schedAll_tcpEventSched (h.sched env.core.toNat) (fun id hid _ => hest id.toNat hid)
    · intro i _ _
      have hk := (same_fastSched g.ctx { env with sched := g.scheds env.core.toNat }).key i
      exact ⟨congrArg SockKey.remoteIp hk, congrArg SockKey.remotePort hk⟩
  | drain q =>
    refine ⟨h.base.next (.drain q),
      fun core => Est.kept (fast_state g.ctx rfl) (h.sched core), h.peers ?_⟩
    intro i _ _
    have hk := (same_drain g.ctx q).key i
    exact ⟨congrArg SockKey.remoteIp hk, congrArg SockKey.remotePort hk⟩
  | _ => exact h.slow hok rfl

theorem EmitInit.inv (h : EmitInit g) : EmitInv g := by
  refine ⟨h.slow.base, ?_, ?_⟩
  · intro core
    rw [h.sched]
    exact ⟨[], schedInit_rep, nofun⟩
  · intro i hi
    rw [h.slow.socks] at hi
    cases hi

theorem EmitInv.emits (h : EmitInv g) (env : TcpCtx) : EmitsEstablished g env := by
  intro n hret hn
  obtain ⟨entry, he, -, hip, hport⟩ := tcpEventSched_dest hret hn
  have hst : (g.ctx.sock entry.id.toNat).state = .established :=
    ((h.sched env.core.toNat).head he).1
  refine ⟨entry, he, hst, ?_⟩
  rw [h.peer entry.id.toNat (by rw [hst]; rfl), hip, hport]
  rfl

end runs

/-- **Only established connections emit data**, along every run in which no
event shuts a socket that a scheduler has an entry for, and every bump and
retransmit command that is acted on names an established socket and its
peer. -/
theorem established_emits {g₀ g : Emitter} {log : List Unit} (h₀ : EmitInit g₀)
    (hr : Run EmitOk emitStep g₀ log g) (env : TcpCtx) : EmitsEstablished g env := by
  have hinv : EmitInv g := Run.inv (I := fun _ g => EmitInv g) h₀.inv
    (fun _ _ _ h hok => h.next hok) hr
  exact hinv.emits env

section peer

/-- No socket has an entry. -/
theorem emitOk_of_idle {g : Emitter} {act : SlowAct} (h : ∀ core, g.scheds core = schedInit)
    (hdeq : ∀ env, act = .fastDeq env → DeqOk g.ctx env.qe) : EmitOk g act := by
  refine ⟨?_, hdeq⟩
  intro i core _ hin
  rw [h core] at hin
  obtain ⟨l, hc, hmem⟩ := hin
  cases l with
  | nil => cases hmem
  | cons x xs => exact absurd hc.seg.1.symm (hc.ne x List.mem_cons_self)

def freshEmitter : Emitter :=
  { ctx := freshSlow, scheds := fun _ => schedInit, peer := fun _ => (0, 0) }

/-- The application of socket 0 has ten bytes to send. -/
def bumpTen : SlowAct :=
  .fastDeq { oneSockCtx TcpSock.zero 16 with qe := .bumpChamTx 0 0 0 10 }

/-- The client of `connectRun` with ten bytes to send. -/
def clientTen : Emitter := (execAll emitStep (connectRun ++ [bumpTen]) freshEmitter).2

theorem clientTen_run : ∃ log, Run EmitOk emitStep freshEmitter log clientTen := by
  have hslow : ∀ g act, (∀ core, g.scheds core = schedInit) → act.isSlow = true → EmitOk g act := by
    intro g act hs hact
    refine emitOk_of_idle hs ?_
    intro env he
    rw [he] at hact
    cases hact
  refine ⟨_, Run.snoc (Run.snoc (Run.snoc (Run.snoc (Run.snoc Run.nil ?_) ?_) ?_) ?_) ?_⟩
  · exact hslow _ _ (fun _ => rfl) rfl
  · exact hslow _ _ (fun _ => rfl) rfl
  · exact hslow _ _ (fun _ => rfl) rfl
  · exact hslow _ _ (fun _ => rfl) rfl
  · refine emitOk_of_idle (fun _ => rfl) ?_
    intro env he
    cases he
    intro _
    decide +kernel

/-- They are sent, to the server. -/
theorem established_emits_client :
    (tcpEventSched (fastWith { oneSockCtx TcpSock.zero 16 with sched := clientTen.scheds 0 }
      clientTen.ctx)).2 = .ok 62 ∧
    EmitsEstablished clientTen (oneSockCtx TcpSock.zero 16) := by
  obtain ⟨log, hr⟩ := clientTen_run
  exact ⟨by decide +kernel, established_emits ⟨freshSlow_init, fun _ => rfl⟩ hr _⟩

/-- The server resets the connection before they are. -/
def clientResetRun : List SlowAct := connectRun ++ [bumpTen, serverSegment 101 2 tcpRst]

/-- The closed socket sends a segment to port 0 of `0.0.0.0`. -/
theorem established_emits_refuted :
    ¬ ∀ (g₀ g : Emitter) (log : List Unit), EmitInit g₀ →
      Run (fun _ _ => True) emitStep g₀ log g → ∀ env, EmitsEstablished g env := by
  intro h
  have hemit := h freshEmitter _ _ ⟨freshSlow_init, fun _ => rfl⟩ (Run.execAll clientResetRun Run.nil)
    (oneSockCtx TcpSock.zero 16) 52 (by decide +kernel) (by decide)
  obtain ⟨entry, he, hst, -⟩ := hemit
  have hid : entry.id = 0 := by
    have hhead : (schedHead ((execAll emitStep clientResetRun freshEmitter).2.scheds 0)).map (·.id) =
      some 0 := by decide +kernel
    rw [show schedHead ((execAll emitStep clientResetRun freshEmitter).2.scheds 0) = some entry from he]
      at hhead
    exact Option.some.inj hhead
  rw [hid] at hst
  exact absurd hst (by decide +kernel)

end peer

end Chamelio.Tcp
