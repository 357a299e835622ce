import Chamelio.Lib.Run
import Chamelio.Udp.EbpfProg
import Chamelio.Udp.Slow

/-!
# Where the two versions of the UDP handlers agree

`event_deq` is the same function in both versions. `event_rx` differs in the
choice of the socket: the hand-written handler takes the number
`next_sock[core]` as it is, and slow-path initialisation sets it to the
number of the core. A core whose number is not below the number of sockets
of the port so picks an entry of `sids` that no bind has written, where the
program picks none, or socket 0 of a port with one socket.

The invariant over all runs says what `next_sock` can be: the number of the
core, or below `nsocks`.
-/

namespace Chamelio.Udp

open Chamelio.Lib Chamelio.Pkt Chamelio.Fast

namespace Ebpf

/-! ## Helpers -/

theorem sockMapLookup_eq (sockId : UInt32) : sockMapLookup sockId = sockId.toNat := by
  unfold sockMapLookup
  exact elemAt_lookup (by decide) sockId

theorem portMapLookup_eq (nr : UInt16) : portMapLookup nr = nr.toNat := by
  have hwide : nr.toUInt64 = nr.toUInt32.toUInt64 := by
    apply UInt64.toNat_inj.mp
    simp
  unfold portMapLookup
  rw [hwide, elemAt_lookup (by decide) nr.toUInt32]
  simp

theorem cfgAt_lookup (ctx : UdpCtx) :
    cfgAt ctx (ebpfMapLookup 0 udpCfgSize.toUInt64) = ctx.maps.nextPort := by
  unfold cfgAt
  rw [if_pos (by decide)]

/-- The slot the program asks for first is the one the entry goes to. -/
theorem enqueueApp_eq (ctx : UdpCtx) (qid : Nat) (e : UdpQe) :
    enqueueApp ctx qid e = ((ctx.equeues qid).push e).map (ctx.setQueue qid) := by
  unfold enqueueApp ebpfQueueTail
  cases hroom : (ctx.equeues qid).hasRoom with
  | true => rfl
  | false =>
    unfold Fifo.push
    rw [hroom]
    rfl

theorem rxCopyPayload_eq (ctx : UdpCtx) (sock : UdpSock) (src : Nat) (payloadLen : UInt16) :
    rxCopyPayload ctx sock src payloadLen = Udp.rxCopyPayload ctx sock src payloadLen := rfl

theorem txCopyPayload_eq (ctx : UdpCtx) (sock : UdpSock) (payloadLen : UInt16) :
    txCopyPayload ctx sock payloadLen = Udp.txCopyPayload ctx sock payloadLen := rfl

/-! ## Sending -/

theorem findFreePort_eq (ctx : UdpCtx) : findFreePort ctx = Udp.findFreePort ctx := by
  unfold findFreePort
  rw [cfgAt_lookup]
  simp only [portMapLookup_eq]
  rfl

theorem txBindPort_eq (ctx : UdpCtx) (sid : Nat) : txBindPort ctx sid = Udp.txBindPort ctx sid := by
  unfold txBindPort Udp.txBindPort portOf
  simp only [findFreePort_eq, portMapLookup_eq]

theorem txSend_eq (ctx : UdpCtx) (sid : Nat) (core txPort : UInt16) (txIp txAvail : UInt32) :
    txSend ctx sid core txPort txIp txAvail = Udp.txSend ctx sid core txPort txIp txAvail := by
  unfold txSend Udp.txSend
  dsimp only
  split
  · rfl
  · rw [enqueueApp_eq, txCopyPayload_eq]
    split
    · next hpush => split <;> simp_all
    · next hpush => split <;> simp_all

theorem handleBumpTx_eq (ctx : UdpCtx) (sockId : UInt32) (core txPort : UInt16)
    (txIp txAvail : UInt32) :
    handleBumpTx ctx sockId core txPort txIp txAvail =
      Udp.handleBumpTx ctx sockId core txPort txIp txAvail := by
  unfold handleBumpTx
  dsimp only
  rw [sockMapLookup_eq, txBindPort_eq]
  simp only [txSend_eq]
  rfl

theorem handleBumpRx_eq (ctx : UdpCtx) (sockId : UInt32) (core : UInt16) (rxHead : UInt32) :
    handleBumpRx ctx sockId core rxHead = Udp.handleBumpRx ctx sockId core rxHead := by
  unfold handleBumpRx Udp.handleBumpRx
  rw [sockMapLookup_eq]

/-- `event_deq` agrees on every context. -/
theorem eventDeq_eq (ctx : UdpCtx) : eventDeq ctx = udpEventDeq ctx := by
  unfold eventDeq
  simp only [handleBumpTx_eq, handleBumpRx_eq]
  rfl

/-! ## Receiving -/

theorem rxDeliver_eq (ctx : UdpCtx) (sid ipHdrsLen : Nat) (udpLength : UInt16) :
    rxDeliver ctx sid ipHdrsLen udpLength = Udp.rxDeliver ctx sid ipHdrsLen udpLength := by
  unfold rxDeliver Udp.rxDeliver
  dsimp only
  split
  · rfl
  · split
    · rfl
    · rw [enqueueApp_eq, rxCopyPayload_eq]
      split
      · next hpush => split <;> simp_all
      · next hpush => split <;> simp_all

/-- The socket number of the core is one both versions take, or one neither
takes. -/
structure SameIdx (ctx : UdpCtx) (port : UdpPort) : Prop where
  few : port.nsocks ≤ maxReusockPort
  one : port.nsocks = 1 → port.nextSock ctx.core.toNat = 0
  idx : port.nsocks = 0 ∨ port.nextSock ctx.core.toNat < port.nsocks ∨
    maxReusockPort ≤ port.nextSock ctx.core.toNat

theorem udpSockFind_eq {ctx : UdpCtx} {dstPort : UInt16} (h : SameIdx ctx (portOf ctx dstPort)) :
    udpSockFind ctx dstPort = Udp.udpSockFind ctx dstPort := by
  unfold udpSockFind Udp.udpSockFind
  dsimp only
  rw [portMapLookup_eq, show ctx.maps.ports dstPort.toNat = portOf ctx dstPort from rfl]
  by_cases hrange : dstPort < minPort ∨ dstPort > maxPort
  · rw [if_pos hrange, if_pos hrange]
  · rw [if_neg hrange, if_neg hrange]
    by_cases hcore : ctx.core.toNat ≥ maxFpCores
    · rw [if_pos hcore, if_pos hcore]
    · rw [if_neg hcore, if_neg hcore]
      generalize hp : portOf ctx dstPort = port at h ⊢
      by_cases hz : port.nsocks = 0
      · rw [if_pos (.inl hz), if_pos hz]
      · have hmany : ¬ (port.nsocks = 0 ∨ port.nsocks > maxReusockPort) := by
          rintro (h0 | hgt)
          · exact hz h0
          · exact absurd h.few (UInt32.not_le.mpr hgt)
        have hidx : (if port.nsocks = 1 then 0 else port.nextSock ctx.core.toNat) =
            port.nextSock ctx.core.toNat := by
          by_cases h1 : port.nsocks = 1
          · rw [if_pos h1, h.one h1]
          · rw [if_neg h1]
        rw [if_neg hmany, if_neg hz, hidx, sockMapLookup_eq]
        -- the guards on the number come to the same
        have hguard : (port.nextSock ctx.core.toNat ≥ port.nsocks ∨
            port.nextSock ctx.core.toNat ≥ maxReusockPort) ↔
            port.nextSock ctx.core.toNat ≥ maxReusockPort := by
          constructor
          · rintro (hge | hge)
            · rcases h.idx with h0 | hlt | hbig
              · exact absurd h0 hz
              · exact absurd hge (UInt32.not_le.mpr hlt)
              · exact hbig
            · exact hge
          · exact .inr
        by_cases hg : port.nextSock ctx.core.toNat ≥ maxReusockPort
        · rw [if_pos (hguard.mpr hg), if_pos hg]
        · rw [if_neg (fun hc => hg (hguard.mp hc)), if_neg hg]

end Ebpf

/-! ## What a run does to the maps -/

/-- One request of an application, the reading of an answer, or one event of
a fast-path core that runs one of the two versions. A context given with an
event is its own but for the maps. -/
inductive UdpAct
  | newSock (a : Nat) (opaquePtr : UInt64) (rxq txq : Option ProtoQueue)
  | setopt (a : Nat) (sockId : UInt32) (opt : UInt8) (opaquePtr : UInt64) (old : Bool × UInt64)
  | bind (a : Nat) (sockId : UInt32) (localPort : UInt16) (localIp : UInt32) (opaquePtr : UInt64)
  | takeAnswer (a : Nat)
  | rx (ebpf : Bool) (ctx : UdpCtx)
  | deq (ebpf : Bool) (ctx : UdpCtx)

/-- A context over the maps of the system. -/
def UdpSlow.over (s : UdpSlow) (ctx : UdpCtx) : UdpCtx := { ctx with maps := s.maps }

def UdpSlow.step (s : UdpSlow) (act : UdpAct) : UdpSlow × Unit :=
  match act with
  | .newSock a opaquePtr rxq txq => (handleNewSock s a opaquePtr rxq txq, ())
  | .setopt a sockId opt opaquePtr old => (handleSockSetopt s a sockId opt opaquePtr old, ())
  | .bind a sockId localPort localIp opaquePtr =>
    (handleBind s a sockId localPort localIp opaquePtr, ())
  | .takeAnswer a =>
    ({ s with actxs := fun i =>
        if i = a then { s.actxs a with slowAppQ := (s.actxs a).slowAppQ.pop } else s.actxs i }, ())
  | .rx true ctx => ({ s with maps := (Ebpf.eventRx (s.over ctx)).1.maps }, ())
  | .rx false ctx => ({ s with maps := (udpEventRx (s.over ctx)).1.maps }, ())
  | .deq true ctx => ({ s with maps := (Ebpf.eventDeq (s.over ctx)).1.maps }, ())
  | .deq false ctx => ({ s with maps := (udpEventDeq (s.over ctx)).1.maps }, ())

/-- The number a core goes on from is its own, or that of a socket. -/
structure PortInv (p : UdpPort) : Prop where
  few : p.nsocks ≤ maxReusockPort
  next : ∀ c, c < maxFpCores → p.nextSock c = UInt32.ofNat c ∨ p.nextSock c < p.nsocks

/-- Of every port that has an entry. -/
def PortsInv (m : UdpMaps) : Prop := ∀ nr : Nat, nr < maxPort.toNat → PortInv (m.ports nr)

theorem initMaps_inv (m : UdpMaps) : PortsInv (initMaps m) := by
  intro nr hnr
  unfold initMaps
  dsimp only
  rw [if_pos (show nr < maxSockets.toNat from hnr)]
  refine ⟨show (0 : UInt32) ≤ maxReusockPort by decide, fun c hc => .inl ?_⟩
  dsimp only
  rw [if_pos hc]

/-- An invariant of the ports after one of them was written. -/
theorem PortsInv.update {m : UdpMaps} (h : PortsInv m) {nr : UInt16} {p : UdpPort}
    (hp : nr.toNat < maxPort.toNat → PortInv p) {m' : UdpMaps}
    (hm : ∀ i, m'.ports i = if i = nr.toNat then p else m.ports i) : PortsInv m' := by
  intro i hi
  rw [hm]
  by_cases heq : i = nr.toNat
  · rw [if_pos heq]
    exact hp (heq ▸ hi)
  · rw [if_neg heq]
    exact h i hi

theorem udpRotate_inv {ctx : UdpCtx} (h : PortsInv ctx.maps) (dstPort : UInt16) (idx : UInt32) :
    PortsInv (udpRotate ctx dstPort idx).maps := by
  unfold udpRotate
  dsimp only
  split
  · refine @PortsInv.update _ h dstPort _ ?_ _ (fun i => rfl)
    intro hlt
    obtain ⟨hfew, hnext⟩ := h dstPort.toNat hlt
    refine ⟨hfew, fun c hc => ?_⟩
    dsimp only
    by_cases hcc : c = ctx.core.toNat
    · rw [if_pos hcc]
      unfold udpNextSock
      dsimp only
      split
      · refine .inl ?_
        rw [hcc]
        simp
      · next hlt' => exact .inr (UInt32.not_le.mp hlt')
    · rw [if_neg hcc]
      exact hnext c hc
  · exact h

theorem udpSockFind_inv {ctx : UdpCtx} (h : PortsInv ctx.maps) (dstPort : UInt16) :
    PortsInv (udpSockFind ctx dstPort).1.maps := by
  unfold udpSockFind
  dsimp only
  split
  · exact h
  · split
    · exact h
    · split
      · exact h
      · split
        · exact h
        · split
          · exact h
          · exact udpRotate_inv h _ _

theorem Ebpf.udpSockFind_inv {ctx : UdpCtx} (h : PortsInv ctx.maps) (dstPort : UInt16) :
    PortsInv (Ebpf.udpSockFind ctx dstPort).1.maps := by
  unfold Ebpf.udpSockFind
  dsimp only
  split
  · exact h
  · split
    · exact h
    · split
      · exact h
      · generalize (if _ = (1 : UInt32) then (0 : UInt32) else _) = idx
        split
        · exact h
        · split
          · exact h
          · exact udpRotate_inv h _ _

@[simp] theorem setSock_ports (ctx : UdpCtx) (sid : Nat) (sock : UdpSock) :
    (setSock ctx sid sock).maps.ports = ctx.maps.ports := rfl

@[simp] theorem setQueue_maps (ctx : UdpCtx) (qid : Nat) (q : Fifo UdpQe) :
    (ctx.setQueue qid q).maps = ctx.maps := rfl

theorem rxCopyPayload_maps (ctx : UdpCtx) (sock : UdpSock) (src : Nat) (n : UInt16) :
    (rxCopyPayload ctx sock src n).maps = ctx.maps := by
  unfold rxCopyPayload
  dsimp only
  split <;> rfl

theorem txCopyPayload_maps (ctx : UdpCtx) (sock : UdpSock) (n : UInt16) :
    (txCopyPayload ctx sock n).maps = ctx.maps := by
  unfold txCopyPayload
  dsimp only
  split <;> rfl

/-- Delivery does not write ports. -/
theorem rxDeliver_ports (ctx : UdpCtx) (sid ipHdrsLen : Nat) (udpLength : UInt16) :
    (rxDeliver ctx sid ipHdrsLen udpLength).1.maps.ports = ctx.maps.ports := by
  unfold rxDeliver
  dsimp only
  split
  · rfl
  · split
    · rfl
    · split
      · rw [setSock_ports, rxCopyPayload_maps]
      · rw [setQueue_maps, setSock_ports, rxCopyPayload_maps]

theorem PortsInv.of_ports {m m' : UdpMaps} (h : PortsInv m) (heq : m'.ports = m.ports) :
    PortsInv m' := by
  intro nr hnr
  rw [heq]
  exact h nr hnr

theorem udpEventRx_inv {ctx : UdpCtx} (h : PortsInv ctx.maps) :
    PortsInv (udpEventRx ctx).1.maps := by
  unfold udpEventRx
  split
  · exact h
  · next ipHdrsLen udpLength _ =>
    have hfind := udpSockFind_inv h (udpDst ctx.pkt ipHdrsLen)
    split
    · next hf => rw [hf] at hfind; exact hfind
    · next hf =>
      rw [hf] at hfind
      exact hfind.of_ports (rxDeliver_ports _ _ _ _)

theorem Ebpf.eventRx_inv {ctx : UdpCtx} (h : PortsInv ctx.maps) :
    PortsInv (Ebpf.eventRx ctx).1.maps := by
  unfold Ebpf.eventRx
  split
  · exact h
  · next ipHdrsLen udpLength _ =>
    have hfind := Ebpf.udpSockFind_inv h (udpDst ctx.pkt ipHdrsLen)
    split
    · next hf => rw [hf] at hfind; exact hfind
    · next hf =>
      rw [hf] at hfind
      rw [Ebpf.rxDeliver_eq]
      exact hfind.of_ports (rxDeliver_ports _ _ _ _)

/-- A socket more on a port that has room for it. -/
theorem PortInv.addSock {p : UdpPort} (h : PortInv p) (hroom : p.nsocks < maxReusockPort)
    (sids : Nat → UInt32) : PortInv { p with sids, nsocks := p.nsocks + 1 } := by
  have hlt : p.nsocks.toNat < 8 := UInt32.lt_iff_toNat_lt.mp hroom
  have hadd : (p.nsocks + 1).toNat = p.nsocks.toNat + 1 := by
    rw [UInt32.toNat_add, show (1 : UInt32).toNat = 1 from rfl]
    omega
  refine ⟨?_, fun c hc => ?_⟩
  · rw [UInt32.le_iff_toNat_le]
    show (p.nsocks + 1).toNat ≤ 8
    omega
  · rcases h.next c hc with heq | hlt'
    · exact .inl heq
    · refine .inr ?_
      rw [UInt32.lt_iff_toNat_lt] at hlt' ⊢
      show (p.nextSock c).toNat < (p.nsocks + 1).toNat
      omega

/-- `find_free_port` finds a port without a socket and writes no port. -/
theorem findFreePort_spec (ctx : UdpCtx) :
    (findFreePort ctx).1.maps.ports = ctx.maps.ports ∧
      ((findFreePort ctx).2 ≠ 0 → (portOf ctx (findFreePort ctx).2).nsocks = 0) := by
  unfold findFreePort
  split
  · exact ⟨rfl, fun h => absurd rfl h⟩
  · dsimp only
    split
    · exact ⟨rfl, fun h => absurd rfl h⟩
    · next i hfind =>
      have hzero := List.find?_some hfind
      exact ⟨rfl, fun _ => eq_of_beq hzero⟩

theorem txBindPort_inv {ctx : UdpCtx} (h : PortsInv ctx.maps) (sid : Nat) :
    PortsInv (txBindPort ctx sid).1.maps := by
  obtain ⟨hports, hfree⟩ := findFreePort_spec ctx
  have h₁ : PortsInv (findFreePort ctx).1.maps := h.of_ports hports
  unfold txBindPort
  dsimp only
  split
  · exact h
  · split
    · exact h₁
    · next hne =>
      refine @PortsInv.update _ h₁ (findFreePort ctx).2 _ ?_ _ (fun i => rfl)
      intro hlt
      have hzero : (portOf (findFreePort ctx).1 (findFreePort ctx).2).nsocks = 0 := by
        unfold portOf
        rw [hports]
        exact hfree hne
      refine (h₁ _ hlt).addSock ?_ _
      show (portOf (findFreePort ctx).1 (findFreePort ctx).2).nsocks < maxReusockPort
      rw [hzero]
      decide

/-- The datagram is built without writing ports. -/
theorem txSend_ports (ctx : UdpCtx) (sid : Nat) (core txPort : UInt16) (txIp txAvail : UInt32) :
    (txSend ctx sid core txPort txIp txAvail).1.maps.ports = ctx.maps.ports := by
  unfold txSend
  dsimp only
  split
  · rfl
  · split
    · rw [setSock_ports, txCopyPayload_maps]
    · rw [setQueue_maps, setSock_ports, txCopyPayload_maps]

theorem udpEventDeq_inv {ctx : UdpCtx} (h : PortsInv ctx.maps) :
    PortsInv (udpEventDeq ctx).1.maps := by
  unfold udpEventDeq
  split
  · exact h
  · split
    · next sockId core txPort txIp txAvail _ =>
      have hbind := txBindPort_inv h sockId.toNat
      unfold handleBumpTx
      split
      · exact h
      · split
        · exact h
        · split
          · next hb => rw [hb] at hbind; exact hbind
          · next hb =>
            rw [hb] at hbind
            exact hbind.of_ports (txSend_ports _ _ _ _ _ _)
    · unfold handleBumpRx
      split
      · exact h
      · split
        · exact h
        · exact h.of_ports rfl
    · exact h

/-! ## Requests -/

theorem answer_maps (s : UdpSlow) (a : Nat) (e : UdpSlowQe) : (answer s a e).maps = s.maps := by
  unfold answer
  split <;> rfl

theorem handleNewSock_ports (s : UdpSlow) (a : Nat) (opaquePtr : UInt64)
    (rxq txq : Option ProtoQueue) :
    (handleNewSock s a opaquePtr rxq txq).maps.ports = s.maps.ports := by
  unfold handleNewSock
  dsimp only
  split
  · rfl
  · split
    · rfl
    · split
      · rfl
      · split
        · rfl
        · show (answer _ _ _).maps.ports = _
          rw [answer_maps]
          rfl

theorem handleSockSetopt_ports (s : UdpSlow) (a : Nat) (sockId : UInt32) (opt : UInt8)
    (opaquePtr : UInt64) (old : Bool × UInt64) :
    (handleSockSetopt s a sockId opt opaquePtr old).maps.ports = s.maps.ports := by
  unfold handleSockSetopt
  dsimp only
  split
  · rfl
  · have hset : (if opt = soReuseport then s.setSock sockId.toNat
        { s.maps.socks sockId.toNat with reuport := true } else s).maps.ports = s.maps.ports := by
      split
      · rfl
      · rfl
    split
    · rw [answer_maps, answer_maps]
      exact hset
    · rw [answer_maps]
      exact hset

theorem bindTo_inv {s : UdpSlow} (h : PortsInv s.maps) (a : Nat) (sockId : UInt32)
    (localPort : UInt16) (localIp : UInt32) (opaquePtr : UInt64) :
    PortsInv (bindTo s a sockId localPort localIp opaquePtr).maps := by
  unfold bindTo
  dsimp only
  split
  · rw [answer_maps]
    exact h
  · split
    · rw [answer_maps]
      exact h
    · next hroom =>
      rw [answer_maps]
      refine @PortsInv.update _ h localPort _ ?_ _ (fun i => rfl)
      intro hlt
      exact (h _ hlt).addSock (UInt32.not_le.mp hroom) _

theorem slowFindFreePort_ports (s : UdpSlow) :
    (slowFindFreePort s).1.maps.ports = s.maps.ports := by
  unfold slowFindFreePort
  split
  · rfl
  · dsimp only
    split <;> rfl

theorem handleBind_inv {s : UdpSlow} (h : PortsInv s.maps) (a : Nat) (sockId : UInt32)
    (localPort : UInt16) (localIp : UInt32) (opaquePtr : UInt64) :
    PortsInv (handleBind s a sockId localPort localIp opaquePtr).maps := by
  have hfind : PortsInv (slowFindFreePort s).1.maps := h.of_ports (slowFindFreePort_ports s)
  unfold handleBind
  dsimp only
  split
  · exact h
  · generalize (if (s.maps.socks sockId.toNat).localPort ≠ 0 then _ else _) = port
    split
    · rw [answer_maps]
      exact h
    · split
      · split
        · rw [answer_maps]
          exact hfind
        · exact bindTo_inv hfind _ _ _ _ _
      · exact bindTo_inv h _ _ _ _ _

/-- One step keeps the ports in order, whichever version runs. -/
theorem UdpSlow.step_inv {s : UdpSlow} (h : PortsInv s.maps) (act : UdpAct) :
    PortsInv (s.step act).1.maps := by
  have hover : ∀ ctx, PortsInv (s.over ctx).maps := fun _ => h
  cases act with
  | newSock a opaquePtr rxq txq => exact h.of_ports (handleNewSock_ports s a opaquePtr rxq txq)
  | setopt a sockId opt opaquePtr old =>
    exact h.of_ports (handleSockSetopt_ports s a sockId opt opaquePtr old)
  | bind a sockId localPort localIp opaquePtr => exact handleBind_inv h a sockId localPort localIp _
  | takeAnswer a => exact h
  | rx ebpf ctx =>
    cases ebpf with
    | true => exact Ebpf.eventRx_inv (hover ctx)
    | false => exact udpEventRx_inv (hover ctx)
  | deq ebpf ctx =>
    cases ebpf with
    | true =>
      show PortsInv (Ebpf.eventDeq (s.over ctx)).1.maps
      rw [Ebpf.eventDeq_eq]
      exact udpEventDeq_inv (hover ctx)
    | false => exact udpEventDeq_inv (hover ctx)

/-! ## Agreement -/

/-- The core has a socket of the destination port to pick: its number is
below the number of sockets, or no socket is there, or the core is one that
neither version serves. -/
def CorePicks (ctx : UdpCtx) (dstPort : UInt16) : Prop :=
  dstPort < maxPort ∧
    ((portOf ctx dstPort).nsocks = 0 ∨ ctx.core.toNat < (portOf ctx dstPort).nsocks.toNat ∨
      (1 < (portOf ctx dstPort).nsocks ∧ maxReusockPort.toNat ≤ ctx.core.toNat))

instance (ctx : UdpCtx) (dstPort : UInt16) : Decidable (CorePicks ctx dstPort) := by
  unfold CorePicks
  infer_instance

theorem sockFind_agree {ctx : UdpCtx} {dstPort : UInt16} (h : PortsInv ctx.maps)
    (hpick : CorePicks ctx dstPort) :
    Ebpf.udpSockFind ctx dstPort = udpSockFind ctx dstPort := by
  obtain ⟨hlt, hcase⟩ := hpick
  by_cases hcore : ctx.core.toNat ≥ maxFpCores
  · -- both versions turn the core away
    unfold Ebpf.udpSockFind udpSockFind
    rw [if_pos hcore, if_pos hcore]
  · obtain ⟨hfew, hnext⟩ := h dstPort.toNat (UInt16.lt_iff_toNat_lt.mp hlt)
    have hn := hnext ctx.core.toNat (by omega)
    have hcore32 : (UInt32.ofNat ctx.core.toNat).toNat = ctx.core.toNat := by
      have := ctx.core.toNat_lt
      rw [UInt32.toNat_ofNat_of_lt']
      exact Nat.lt_trans this (by decide)
    change (portOf ctx dstPort).nextSock ctx.core.toNat = _ ∨
      (portOf ctx dstPort).nextSock ctx.core.toNat < (portOf ctx dstPort).nsocks at hn
    refine Ebpf.udpSockFind_eq ⟨hfew, fun h1 => ?_, ?_⟩
    · rw [h1] at hn hcase
      apply UInt32.toNat_inj.mp
      rcases hn with heq | hlt1
      · rcases hcase with h0 | hc | hc
        · exact absurd h0 (by decide)
        · have : ctx.core.toNat < 1 := hc
          rw [heq, hcore32, show (0 : UInt32).toNat = 0 from rfl]
          omega
        · exact absurd hc.1 (by decide)
      · have := UInt32.lt_iff_toNat_lt.mp hlt1
        rw [show (1 : UInt32).toNat = 1 from rfl] at this
        rw [show (0 : UInt32).toNat = 0 from rfl]
        omega
    · rcases hcase with h0 | hc | ⟨-, hc⟩
      · exact .inl h0
      · refine .inr (.inl ?_)
        rcases hn with heq | hlt1
        · rw [heq, UInt32.lt_iff_toNat_lt, hcore32]
          exact hc
        · exact hlt1
      · refine .inr ?_
        rcases hn with heq | hlt1
        · refine .inr ?_
          rw [heq, UInt32.le_iff_toNat_le, hcore32]
          exact hc
        · exact .inl hlt1

/-- The datagram is turned away before a socket is looked up, or the core
has a socket to pick. -/
def RxAgrees (ctx : UdpCtx) : Prop :=
  match rxParse ctx with
  | none => True
  | some (ipHdrsLen, _) =>
    udpDst ctx.pkt ipHdrsLen < minPort ∨ udpDst ctx.pkt ipHdrsLen > maxPort ∨
      ctx.core.toNat ≥ maxFpCores ∨ CorePicks ctx (udpDst ctx.pkt ipHdrsLen)

instance (ctx : UdpCtx) : Decidable (RxAgrees ctx) := by
  unfold RxAgrees
  split <;> infer_instance

theorem eventRx_agree {ctx : UdpCtx} (h : PortsInv ctx.maps) (hok : RxAgrees ctx) :
    Ebpf.eventRx ctx = udpEventRx ctx := by
  unfold RxAgrees at hok
  unfold Ebpf.eventRx udpEventRx
  cases hparse : rxParse ctx with
  | none => rfl
  | some hdrs =>
    obtain ⟨ipHdrsLen, udpLength⟩ := hdrs
    rw [hparse] at hok
    dsimp only
    have hfind : Ebpf.udpSockFind ctx (udpDst ctx.pkt ipHdrsLen) =
        udpSockFind ctx (udpDst ctx.pkt ipHdrsLen) := by
      rcases hok with hlow | hhigh | hcore | hpick
      · unfold Ebpf.udpSockFind udpSockFind
        rw [if_pos (.inl hlow), if_pos (.inl hlow)]
      · unfold Ebpf.udpSockFind udpSockFind
        rw [if_pos (.inr hhigh), if_pos (.inr hhigh)]
      · unfold Ebpf.udpSockFind udpSockFind
        rw [if_pos hcore, if_pos hcore]
      · exact sockFind_agree h hpick
    rw [hfind]
    rcases udpSockFind ctx (udpDst ctx.pkt ipHdrsLen) with ⟨ctx', _ | sid⟩
    · rfl
    · exact Ebpf.rxDeliver_eq ctx' sid ipHdrsLen udpLength

/-- **The two versions of the UDP handlers.** In every state reached from
slow-path initialisation by requests and by traffic through either version,
on every context, `event_deq` returns the same and leaves the same, and so
does `event_rx` wherever the core has a socket of the port to pick. -/
theorem udp_handlers_agree {m : UdpMaps} {nFpCores localIp : UInt32} {actxs : Nat → ActxSlow}
    {log : List Unit} {s : UdpSlow}
    (hrun : Run (fun _ _ => True) UdpSlow.step (initUdpSlowContext m nFpCores localIp actxs) log s)
    (ctx : UdpCtx) (hmaps : ctx.maps = s.maps) :
    Ebpf.eventDeq ctx = udpEventDeq ctx ∧ (RxAgrees ctx → Ebpf.eventRx ctx = udpEventRx ctx) := by
  have hinv : PortsInv s.maps := by
    refine hrun.inv (I := fun _ s => PortsInv s.maps) (initMaps_inv m) ?_
    intro _ s a h _
    exact UdpSlow.step_inv h a
  refine ⟨Ebpf.eventDeq_eq ctx, fun hok => ?_⟩
  rw [← hmaps] at hinv
  exact eventRx_agree hinv hok

/-! ## Two sockets, two cores -/

/-- Zeroed shared memory. -/
def blankMaps : UdpMaps :=
  { ports := fun _ => { nsocks := 0, nextSock := fun _ => 0, sids := fun _ => 0 }
    socks := fun _ =>
      { id := 0, opaquePtr := 0, txCore := 0, rxCore := 0, appBumpQids := fun _ => 0, localIp := 0,
        localPort := 0, reuport := false, rxLen := 0, rxAvail := 0, rxHead := 0, rxOff := 0,
        txLen := 0, txAvail := 0, txHead := 0, txOff := 0 }
    sockNelems := 0
    nextPort := none }

/-- A context with a queue of eight answers and one queue of bumps a core. -/
def freshActx (_ : Nat) : ActxSlow :=
  { slowAppQ := { items := [], nelems := 8 }, appBumpQs := fun i => UInt16.ofNat i }

/-- A ring of 64 bytes. -/
def ring64 (off : UInt64) : Option ProtoQueue := some { id := 0, off, len := 64 }

/-- Two sockets; the second one is bound to port 2000. -/
def bindSecond : List UdpAct :=
  [.newSock 0 0xa0 (ring64 0) (ring64 64), .newSock 0 0xb0 (ring64 128) (ring64 192),
   .bind 0 1 2000 7 0xb0]

/-- A datagram of 4 bytes to port 2000 that arrives on core `core`. -/
def datagramTo2000 (core : UInt16) (maps : UdpMaps) : UdpCtx :=
  { pkt := fun i =>
      ([0x45, 0, 0, 32, 0, 0, 0, 0, 64, 17, 0, 0, 10, 0, 0, 1, 10, 0, 0, 2,
        0x04, 0x00, 0x07, 0xd0, 0, 12, 0, 0, 1, 2, 3, 4] : List UInt8).getD i 0
    pktRoom := 1500, shm := fun _ => 0, shmLen := 256
    sched := Util.schedInit, qe := .unknown, qeOff := 0, ncores := 2, core
    dqueues := fun _ => { q := { items := [], nelems := 4 }, off := 0, elsize := 32, head := 0 }
    equeues := fun _ => { items := [], nelems := 4 }
    maps
    clk := { readings := fun _ => 0, reads := 0, tscToUs := id, cyclesPerUs := 1 } }

/-- What the three requests leave behind. -/
def secondBound : UdpSlow :=
  (execAll UdpSlow.step bindSecond (initUdpSlowContext blankMaps 2 7 freshActx)).2

theorem secondBound_run : ∃ log, Run (fun _ _ => True) UdpSlow.step
    (initUdpSlowContext blankMaps 2 7 freshActx) log secondBound :=
  ⟨_, Run.execAll bindSecond Run.nil⟩

/-- On core 0 both versions hand the datagram to the bound socket. -/
theorem udp_handlers_agree_core0 :
    ∃ log, Run (fun _ _ => True) UdpSlow.step (initUdpSlowContext blankMaps 2 7 freshActx) log
        secondBound ∧
      Ebpf.eventRx (datagramTo2000 0 secondBound.maps) =
        udpEventRx (datagramTo2000 0 secondBound.maps) ∧
      ((udpEventRx (datagramTo2000 0 secondBound.maps)).1.maps.socks 1).rxAvail = 4 := by
  obtain ⟨log, hrun⟩ := secondBound_run
  have hagree := udp_handlers_agree hrun (datagramTo2000 0 secondBound.maps) rfl
  exact ⟨log, hrun, hagree.2 (by decide), by decide⟩

/-- On core 1 the hand-written handler finds the number of a core where it
looks for that of a socket, and the first socket gets the datagram of the
second. -/
theorem udp_handlers_differ_core1 :
    ∃ log, Run (fun _ _ => True) UdpSlow.step (initUdpSlowContext blankMaps 2 7 freshActx) log
        secondBound ∧
      ((Ebpf.eventRx (datagramTo2000 1 secondBound.maps)).1.maps.socks 1).rxAvail = 4 ∧
      ((udpEventRx (datagramTo2000 1 secondBound.maps)).1.maps.socks 1).rxAvail = 0 ∧
      ((udpEventRx (datagramTo2000 1 secondBound.maps)).1.maps.socks 0).rxAvail = 4 ∧
      Ebpf.eventRx (datagramTo2000 1 secondBound.maps) ≠
        udpEventRx (datagramTo2000 1 secondBound.maps) := by
  obtain ⟨log, hrun⟩ := secondBound_run
  have h₁ : ((Ebpf.eventRx (datagramTo2000 1 secondBound.maps)).1.maps.socks 1).rxAvail = 4 := by
    decide
  have h₂ : ((udpEventRx (datagramTo2000 1 secondBound.maps)).1.maps.socks 1).rxAvail = 0 := by
    decide
  refine ⟨log, hrun, h₁, h₂, by decide, fun heq => ?_⟩
  rw [heq, h₂] at h₁
  exact absurd h₁ (by decide)

end Chamelio.Udp
