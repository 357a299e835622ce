import Chamelio.Udp.EbpfAgree
import Chamelio.Udp.RxBoundary

/-!
# What a failed UDP event leaves behind

`udp_event_rx` and `udp_event_deq` report `-1` and the caller drops the
datagram, or keeps the queue entry and runs it again. Either would be in
order if a failed event had changed nothing. Both handlers update the socket
first and look for a slot in the application's queue afterwards, so with the
queue full the bytes are counted although nobody hears of them; and a run
that ends later than the search for a socket or for a port has moved the
rotation of the port, or bound one.

Mirroring notes:
- `SameState` are the fields of the sockets, the port table and `next_port`.
  What is in the rings behind the counters is not part of it.
- `portScan` is the port `find_free_port` comes up with. Counting on past the
  last port is done in 16 bits before the test, so that it may be 0, which
  the caller takes for "none" after `next_port` has moved.
-/

namespace Chamelio.Udp

open Chamelio.Lib Chamelio.Util Chamelio.Pkt Chamelio.Fast

/-- The counters and the port of the socket are the same. -/
structure SameSock (s s' : UdpSock) : Prop where
  rxAvail : s'.rxAvail = s.rxAvail
  rxCore : s'.rxCore = s.rxCore
  txHead : s'.txHead = s.txHead
  txAvail : s'.txAvail = s.txAvail
  localPort : s'.localPort = s.localPort

/-- Sockets, port table and `next_port` are as before. -/
structure SameState (ctx ctx' : UdpCtx) : Prop where
  socks : ∀ i, SameSock (sockOf ctx i) (sockOf ctx' i)
  ports : ctx'.maps.ports = ctx.maps.ports
  nextPort : ctx'.maps.nextPort = ctx.maps.nextPort

theorem SameSock.refl (s : UdpSock) : SameSock s s := ⟨rfl, rfl, rfl, rfl, rfl⟩

theorem SameState.refl (ctx : UdpCtx) : SameState ctx ctx := ⟨fun i => .refl (sockOf ctx i), rfl, rfl⟩

/-- Writing one socket back: it has to be the same, and the ports too. -/
theorem sameState_setSock_iff {ctx c : UdpCtx} {sid : Nat} {s : UdpSock}
    (hsocks : c.maps.socks = ctx.maps.socks) :
    SameState ctx (setSock c sid s) ↔
      SameSock (sockOf ctx sid) s ∧ c.maps.ports = ctx.maps.ports ∧
        c.maps.nextPort = ctx.maps.nextPort := by
  constructor
  · intro h
    have hs := h.socks sid
    rw [sockOf_setSock] at hs
    exact ⟨hs, h.ports, h.nextPort⟩
  · rintro ⟨hs, hports, hnext⟩
    refine ⟨fun i => ?_, hports, hnext⟩
    by_cases hi : i = sid
    · rw [hi, sockOf_setSock]
      exact hs
    · rw [sockOf_setSock_ne _ _ hi]
      unfold sockOf
      rw [hsocks]
      exact .refl _

/-! ## Receiving -/

/-- The rotation of the port leaves the turn where it is. -/
def PortStays (ctx : UdpCtx) (dstPort : UInt16) : Prop :=
  (portOf ctx dstPort).nsocks > 1 →
    udpNextSock ctx (portOf ctx dstPort).nsocks ((portOf ctx dstPort).nextSock ctx.core.toNat) =
      (portOf ctx dstPort).nextSock ctx.core.toNat

theorem udpRotate_ports_iff (ctx : UdpCtx) (dstPort : UInt16) :
    (udpRotate ctx dstPort ((portOf ctx dstPort).nextSock ctx.core.toNat)).maps.ports =
      ctx.maps.ports ↔ PortStays ctx dstPort := by
  unfold udpRotate PortStays
  dsimp only
  split
  · next hmany =>
    constructor
    · intro heq _
      have hport := congrFun heq dstPort.toNat
      unfold setPort at hport
      dsimp only at hport
      rw [if_pos rfl] at hport
      have hnext := congrFun (congrArg UdpPort.nextSock hport) ctx.core.toNat
      dsimp only at hnext
      rw [if_pos rfl] at hnext
      exact hnext
    · intro hstay
      have hsame : (fun c => if c = ctx.core.toNat then
          udpNextSock ctx (portOf ctx dstPort).nsocks
            ((portOf ctx dstPort).nextSock ctx.core.toNat)
          else (portOf ctx dstPort).nextSock c) = (portOf ctx dstPort).nextSock := by
        funext c
        split
        · next hc => rw [hc, hstay hmany]
        · rfl
      rw [hsame]
      funext i
      unfold setPort
      dsimp only
      split
      · next hi => rw [hi]; rfl
      · rfl
  · next hone => exact ⟨fun _ hmany => absurd hmany hone, fun _ => rfl⟩

/-- The search changes nothing, or it rotates the port and has a socket. -/
theorem udpSockFind_cases (ctx : UdpCtx) (dstPort : UInt16) :
    udpSockFind ctx dstPort = (ctx, none) ∨
    (ctx.core.toNat < maxFpCores ∧ ∃ sid, udpSockFind ctx dstPort =
      (udpRotate ctx dstPort ((portOf ctx dstPort).nextSock ctx.core.toNat), some sid)) := by
  unfold udpSockFind
  dsimp only
  split
  · exact .inl rfl
  split
  · exact .inl rfl
  · next hcore =>
    split
    · exact .inl rfl
    split
    · exact .inl rfl
    split
    · exact .inl rfl
    · exact .inr ⟨Nat.lt_of_not_le hcore, _, rfl⟩

/-- A packet for which a socket was found: the handler goes on with it, the
port already rotated. -/
theorem udpEventRx_of_pick {ctx : UdpCtx} {sid ipHdrsLen : Nat} {udpLength : UInt16}
    (h : rxPick ctx = some (sid, ipHdrsLen, udpLength)) :
    8 ≤ udpLength.toNat ∧ ctx.core.toNat < maxFpCores ∧
    udpEventRx ctx = rxDeliver (udpRotate ctx (udpDst ctx.pkt ipHdrsLen)
      ((portOf ctx (udpDst ctx.pkt ipHdrsLen)).nextSock ctx.core.toNat)) sid ipHdrsLen
      udpLength := by
  unfold rxPick at h
  unfold udpEventRx
  cases hparse : rxParse ctx with
  | none =>
    rw [hparse] at h
    cases h
  | some lens =>
    obtain ⟨hl, ul⟩ := lens
    rw [hparse] at h
    dsimp only at h ⊢
    rcases udpSockFind_cases ctx (udpDst ctx.pkt hl) with hf | ⟨hcore, sid', hf⟩
    · rw [hf] at h
      cases h
    · rw [hf] at h ⊢
      cases h
      exact ⟨rxParse_len hparse, hcore, rfl⟩

/-- A packet for which there is none changes nothing. -/
theorem udpEventRx_of_none {ctx : UdpCtx} (h : rxPick ctx = none) : udpEventRx ctx = (ctx, none) := by
  unfold rxPick at h
  unfold udpEventRx
  cases hparse : rxParse ctx with
  | none => rfl
  | some lens =>
    obtain ⟨hl, ul⟩ := lens
    rw [hparse] at h
    dsimp only at h ⊢
    rcases udpSockFind_cases ctx (udpDst ctx.pkt hl) with hf | ⟨hcore, sid', hf⟩
    · rw [hf]
    · rw [hf] at h
      cases h

/-- The datagram fits what is free of the ring. -/
def RxFits (s : UdpSock) (udpLength : UInt16) : Prop :=
  (udpLength - 8).toUInt32 ≤ s.rxLen - s.rxAvail

/-- From the socket on: a datagram that does not fit changes nothing more;
one that fits is counted, whether or not the application's queue has room. -/
theorem rxDeliver_cases {c : UdpCtx} {sid ipHdrsLen : Nat} {udpLength : UInt16}
    (hcore : c.core.toNat < maxFpCores) :
    (¬ RxFits (sockOf c sid) udpLength ∧ rxDeliver c sid ipHdrsLen udpLength = (c, none)) ∨
    (RxFits (sockOf c sid) udpLength ∧
      (c.equeues ((sockOf c sid).appBumpQids c.core.toNat).toNat).hasRoom = true ∧
      (rxDeliver c sid ipHdrsLen udpLength).2 = some 0) ∨
    (RxFits (sockOf c sid) udpLength ∧
      (c.equeues ((sockOf c sid).appBumpQids c.core.toNat).toNat).hasRoom = false ∧
      ∃ c₁, c₁.maps = c.maps ∧ rxDeliver c sid ipHdrsLen udpLength =
        (setSock c₁ sid { sockOf c sid with
          rxAvail := (sockOf c sid).rxAvail + (udpLength - 8).toUInt32
          rxCore := c.core.toNat }, none)) := by
  unfold rxDeliver RxFits
  dsimp only
  rw [if_neg (by omega)]
  by_cases hfit : (udpLength - 8).toUInt32 > (sockOf c sid).rxLen - (sockOf c sid).rxAvail
  · rw [if_pos hfit]
    exact .inl ⟨fun hle => absurd hfit (UInt32.not_lt.mpr hle), rfl⟩
  · have hle := UInt32.not_lt.mp hfit
    have hcopy : (rxCopyPayload c (sockOf c sid) (ipHdrsLen + udpHdrSize) (udpLength - 8)).maps =
          c.maps ∧
        (rxCopyPayload c (sockOf c sid) (ipHdrsLen + udpHdrSize) (udpLength - 8)).equeues =
          c.equeues := by
      unfold rxCopyPayload
      dsimp only
      split
      · exact ⟨rfl, rfl⟩
      · exact ⟨rfl, rfl⟩
    rw [if_neg hfit]
    generalize rxCopyPayload c (sockOf c sid) (ipHdrsLen + udpHdrSize) (udpLength - 8) = c₁
      at hcopy ⊢
    have hqueues : ∀ s, (setSock c₁ sid s).equeues = c.equeues := fun _ => hcopy.2
    rw [hqueues]
    unfold Fifo.push
    cases hroom : (c.equeues ((sockOf c sid).appBumpQids c.core.toNat).toNat).hasRoom with
    | true => exact .inr (.inl ⟨hle, rfl, rfl⟩)
    | false => exact .inr (.inr ⟨hle, rfl, c₁, hcopy.1, rfl⟩)

/-- A receive error is clean for the packet and the state it arrives in:
there is no socket, the datagram is delivered, or the turn of its port stays
and it does not fit or is empty on the core of the last one. -/
def RxErrorClean (ctx : UdpCtx) : Prop :=
  ∀ sid ipHdrsLen udpLength, rxPick ctx = some (sid, ipHdrsLen, udpLength) →
    (RxFits (sockOf ctx sid) udpLength ∧
      (ctx.equeues ((sockOf ctx sid).appBumpQids ctx.core.toNat).toNat).hasRoom = true) ∨
    (PortStays ctx (udpDst ctx.pkt ipHdrsLen) ∧
      (¬ RxFits (sockOf ctx sid) udpLength ∨
        (udpLength = 8 ∧ (sockOf ctx sid).rxCore = ctx.core.toNat)))

/-- The counters of a datagram nobody is told of: unchanged only by an empty
one. -/
private theorem sameSock_rx_iff {s : UdpSock} {udpLength : UInt16} {core : Int}
    (hmin : 8 ≤ udpLength.toNat) :
    SameSock s { s with rxAvail := s.rxAvail + (udpLength - 8).toUInt32, rxCore := core } ↔
      udpLength = 8 ∧ s.rxCore = core := by
  have hlen : (udpLength - 8).toUInt32.toNat = udpLength.toNat - 8 := by
    rw [UInt16.toNat_toUInt32]
    exact UInt16.toNat_sub_of_le _ _ (UInt16.le_iff_toNat_le.mpr hmin)
  constructor
  · intro h
    have hsum := congrArg UInt32.toNat h.rxAvail
    dsimp only at hsum
    rw [UInt32.toNat_add, hlen] at hsum
    have := s.rxAvail.toNat_lt
    have := udpLength.toNat_lt
    refine ⟨UInt16.toNat_inj.mp (show udpLength.toNat = 8 by omega), h.rxCore.symm⟩
  · rintro ⟨rfl, hcore⟩
    refine ⟨?_, hcore.symm, rfl, rfl, rfl⟩
    show s.rxAvail + 0 = s.rxAvail
    rw [UInt32.add_zero]

/-- A failed receive changes nothing exactly when it is a clean one. -/
theorem udpEventRx_clean_iff (ctx : UdpCtx) :
    ((udpEventRx ctx).2 = none → SameState ctx (udpEventRx ctx).1) ↔ RxErrorClean ctx := by
  unfold RxErrorClean
  cases hpick : rxPick ctx with
  | none =>
    rw [udpEventRx_of_none hpick]
    constructor
    · intro _ sid hl ul h
      cases h
    · intro _ _
      exact .refl ctx
  | some found =>
    obtain ⟨sid, hl, ul⟩ := found
    obtain ⟨hmin, hcore, hrx⟩ := udpEventRx_of_pick hpick
    have hports := udpRotate_ports_iff ctx (udpDst ctx.pkt hl)
    have hframe : ∃ ports, udpRotate ctx (udpDst ctx.pkt hl)
        ((portOf ctx (udpDst ctx.pkt hl)).nextSock ctx.core.toNat) =
          { ctx with maps := { ctx.maps with ports } } := by
      unfold udpRotate
      dsimp only
      split
      · exact ⟨_, rfl⟩
      · exact ⟨ctx.maps.ports, rfl⟩
    rw [hrx]
    obtain ⟨ports, hframe⟩ := hframe
    rw [hframe] at hports ⊢
    have hsock : ∀ i, sockOf { ctx with maps := { ctx.maps with ports } } i = sockOf ctx i :=
      fun _ => rfl
    have hred : ∀ P : Nat → Nat → UInt16 → Prop,
        (∀ a b c, some (sid, hl, ul) = some (a, b, c) → P a b c) ↔ P sid hl ul := by
      intro P
      exact ⟨fun h => h sid hl ul rfl, fun h a b c heq => by cases heq; exact h⟩
    rw [hred fun sid hl ul => _]
    -- the three ways from the socket on
    rcases @rxDeliver_cases { ctx with maps := { ctx.maps with ports } } sid hl ul hcore with
      ⟨hfit, heq⟩ | ⟨hfit, hroom, hret⟩ | ⟨hfit, hroom, c₁, hmaps, heq⟩
    · rw [heq]
      constructor
      · intro h
        exact .inr ⟨hports.mp (h rfl).ports, .inl hfit⟩
      · intro h _
        rcases h with ⟨hno, -⟩ | ⟨hstay, -⟩
        · exact absurd hno hfit
        · exact ⟨fun i => .refl _, hports.mpr hstay, rfl⟩
    · rw [hret]
      constructor
      · intro _
        exact .inl ⟨hfit, hroom⟩
      · intro _ h
        cases h
    · rw [heq]
      have hiff := @sameState_setSock_iff ctx c₁ sid { sockOf ctx sid with
        rxAvail := (sockOf ctx sid).rxAvail + (ul - 8).toUInt32
        rxCore := ctx.core.toNat } (by rw [hmaps])
      rw [hmaps, sameSock_rx_iff hmin] at hiff
      dsimp only at hiff hports ⊢
      rw [hsock]
      constructor
      · intro h
        obtain ⟨hempty, hp, -⟩ := hiff.mp (h rfl)
        exact .inr ⟨hports.mp hp, .inr hempty⟩
      · intro h _
        rcases h with ⟨-, hyes⟩ | ⟨hstay, hno | hempty⟩
        · exact absurd (hroom.symm.trans hyes) Bool.false_ne_true
        · exact absurd hfit hno
        · exact hiff.mpr ⟨hempty, hports.mpr hstay, rfl⟩

/-! ## Sending -/

/-- The port the scan of `find_free_port` ends at; `none`: there is no free
one, or no configuration. -/
def portScan (ctx : UdpCtx) : Option UInt16 :=
  match ctx.maps.nextPort with
  | none => none
  | some nextPort =>
    let nextPort := if nextPort < minPort ∨ nextPort > maxPort then minPort else nextPort
    ((List.range udpPortScanMax).find? (fun i =>
      (portOf ctx (portCandidate nextPort i)).nsocks == 0)).map (portCandidate nextPort)

theorem findFreePort_scan (ctx : UdpCtx) :
    findFreePort ctx = match portScan ctx with
      | none => (ctx, 0)
      | some nr => ({ ctx with maps := { ctx.maps with nextPort := some (portAfter nr) } }, nr) := by
  unfold findFreePort portScan
  cases ctx.maps.nextPort with
  | none => rfl
  | some nextPort =>
    dsimp only
    generalize (if nextPort < minPort ∨ nextPort > maxPort then minPort else nextPort) = n
    cases (List.range udpPortScanMax).find? (fun i =>
        (portOf ctx (portCandidate n i)).nsocks == 0) with
    | none => rfl
    | some i => rfl

/-- The scan ends at port 0 only when it passes the last port, and then
`next_port` moves to 1. -/
theorem portScan_zero {ctx : UdpCtx} (h : portScan ctx = some 0) : ctx.maps.nextPort ≠ some 1 := by
  intro hnext
  unfold portScan at h
  rw [hnext] at h
  dsimp only at h
  obtain ⟨i, hi, hzero⟩ := Option.map_eq_some_iff.mp h
  have hmem := List.mem_of_find?_eq_some hi
  have hall : ∀ i ∈ List.range udpPortScanMax,
      portCandidate (if (1 : UInt16) < minPort ∨ (1 : UInt16) > maxPort then minPort else 1) i ≠
        0 := by
    decide
  exact hall i hmem hzero

/-- A packet takes the payload it was cut to. -/
theorem txPayloadLen_room {ctx : UdpCtx} (hroom : ¬ udpPktInnerSize > ctx.pktRoom) (a : UInt32) :
    ¬ udpPktInnerSize + (txPayloadLen ctx a).toNat > ctx.pktRoom := by
  have hmax : (UInt32.ofNat (ctx.pktRoom - udpPktInnerSize)).toNat ≤
      ctx.pktRoom - udpPktInnerSize := by
    rw [UInt32.toNat_ofNat']
    exact Nat.mod_le _ _
  unfold txPayloadLen
  dsimp only
  generalize (if a.toUInt16 > udpMaxPayload then udpMaxPayload else a.toUInt16) = n
  split
  · next hgt =>
    have hgt' := UInt32.lt_iff_toNat_lt.mp hgt
    have := n.toNat_lt
    rw [UInt16.toNat_toUInt32] at hgt'
    rw [UInt32.toNat_toUInt16]
    omega
  · next hle =>
    have hle' := UInt32.le_iff_toNat_le.mp (UInt32.not_lt.mp hle)
    rw [UInt16.toNat_toUInt32] at hle'
    omega

/-- From the port on: the socket is counted forward, whether or not the
application's queue has room. -/
theorem txSend_cases {c : UdpCtx} {sid : Nat} {core txPort : UInt16} {txIp a : UInt32}
    (hroom : ¬ udpPktInnerSize > c.pktRoom) :
    ((c.equeues ((sockOf c sid).appBumpQids core.toNat).toNat).hasRoom = true ∧
      (txSend c sid core txPort txIp a).2 ≠ none) ∨
    ((c.equeues ((sockOf c sid).appBumpQids core.toNat).toNat).hasRoom = false ∧
      ∃ c₁, c₁.maps = c.maps ∧ txSend c sid core txPort txIp a =
        (setSock c₁ sid (txSockBump (sockOf c sid) a (txPayloadLen c a)), none)) := by
  have hfit := txPayloadLen_room hroom a
  unfold txSend
  dsimp only
  rw [if_neg hfit]
  generalize txPayloadLen c a = n
  have hcopy : ∀ pkt, (txCopyPayload { c with pkt } (sockOf c sid) n).maps = c.maps ∧
      (txCopyPayload { c with pkt } (sockOf c sid) n).equeues = c.equeues := by
    intro pkt
    unfold txCopyPayload
    dsimp only
    split
    · exact ⟨rfl, rfl⟩
    · exact ⟨rfl, rfl⟩
  have hcopy := hcopy (txHdrBytes c.pkt (sockOf c sid) txPort txIp n)
  generalize txCopyPayload { c with pkt := txHdrBytes c.pkt (sockOf c sid) txPort txIp n }
    (sockOf c sid) n = c₁ at hcopy ⊢
  have hqueues : ∀ s, (setSock c₁ sid s).equeues = c.equeues := fun _ => hcopy.2
  rw [hqueues]
  unfold Fifo.push
  cases hq : (c.equeues ((sockOf c sid).appBumpQids core.toNat).toNat).hasRoom with
  | true => exact .inl ⟨rfl, nofun⟩
  | false => exact .inr ⟨rfl, c₁, hcopy.1, rfl⟩

/-- A transmit error is clean: the socket has its port and the bump fits the
queue or moves neither counter; or the socket has none and there is none, or
there is one other than 0 and the bump fits. -/
def TxErrorClean (ctx : UdpCtx) (s : UdpSock) (core : UInt16) (a : UInt32) : Prop :=
  if s.localPort ≠ 0 then
    (ctx.equeues (s.appBumpQids core.toNat).toNat).hasRoom = true ∨
      (a = (txPayloadLen ctx a).toUInt32 ∧
        wrapAdd s.txHead (txPayloadLen ctx a).toUInt32 s.txLen = s.txHead)
  else
    ∀ nr, portScan ctx = some nr →
      nr ≠ 0 ∧ (ctx.equeues (s.appBumpQids core.toNat).toNat).hasRoom = true

private theorem sameSock_tx_iff {s : UdpSock} {a : UInt32} {n : UInt16} :
    SameSock s (txSockBump s a n) ↔
      a = n.toUInt32 ∧ wrapAdd s.txHead n.toUInt32 s.txLen = s.txHead := by
  constructor
  · intro h
    have havail := h.txAvail
    unfold txSockBump at havail
    dsimp only at havail
    refine ⟨?_, h.txHead⟩
    have hsum := congrArg UInt32.toNat havail
    rw [UInt32.toNat_sub, UInt32.toNat_add] at hsum
    have := s.txAvail.toNat_lt
    have := a.toNat_lt
    have := n.toUInt32.toNat_lt
    exact UInt32.toNat_inj.mp (by omega)
  · rintro ⟨rfl, hhead⟩
    refine ⟨rfl, rfl, hhead, ?_, rfl⟩
    show s.txAvail + n.toUInt32 - n.toUInt32 = s.txAvail
    rw [UInt32.add_sub_cancel]

theorem handleBumpTx_clean_iff {ctx : UdpCtx} {sockId : UInt32} {core txPort : UInt16}
    {txIp a : UInt32} (hroom : ¬ udpPktInnerSize > ctx.pktRoom) (hcore : core.toNat < maxFpCores) :
    ((handleBumpTx ctx sockId core txPort txIp a).2 = none →
      SameState ctx (handleBumpTx ctx sockId core txPort txIp a).1) ↔
    TxErrorClean ctx (sockOf ctx sockId.toNat) core a := by
  unfold handleBumpTx TxErrorClean txBindPort
  rw [if_neg hroom, if_neg (by omega)]
  dsimp only
  by_cases hport : (sockOf ctx sockId.toNat).localPort ≠ 0
  · -- the socket has its port: only the counters move
    rw [if_pos hport, if_pos hport]
    dsimp only
    rcases @txSend_cases ctx sockId.toNat core txPort txIp a hroom with
      ⟨hq, hret⟩ | ⟨hq, c₁, hmaps, heq⟩
    · exact ⟨fun _ => .inl hq, fun _ h => absurd h hret⟩
    · rw [heq]
      have hiff := @sameState_setSock_iff ctx c₁ sockId.toNat
        (txSockBump (sockOf ctx sockId.toNat) a (txPayloadLen ctx a)) (by rw [hmaps])
      rw [hmaps, sameSock_tx_iff] at hiff
      constructor
      · intro h
        exact .inr (hiff.mp (h rfl)).1
      · intro h _
        rcases h with hyes | hstill
        · exact absurd (hq.symm.trans hyes) Bool.false_ne_true
        · exact hiff.mpr ⟨hstill, rfl, rfl⟩
  · rw [if_neg hport, if_neg hport, findFreePort_scan]
    have hzero := Decidable.not_not.mp hport
    cases hscan : portScan ctx with
    | none =>
      dsimp only
      rw [if_pos rfl]
      constructor
      · intro _ nr h
        cases h
      · intro _ _
        exact .refl ctx
    | some nr =>
      dsimp only
      by_cases hnr : nr = 0
      · -- port 0 is taken for "no port", but `next_port` has moved
        subst hnr
        rw [if_pos rfl]
        dsimp only
        constructor
        · intro h
          have hnext := (h rfl).nextPort
          exact absurd hnext.symm (portScan_zero hscan)
        · intro h
          exact absurd rfl (h 0 rfl).1
      · rw [if_neg hnr]
        dsimp only
        generalize hc : setSock _ sockId.toNat { sockOf ctx sockId.toNat with localPort := nr } = c
        have hqueues : c.equeues = ctx.equeues := by rw [← hc]; rfl
        have hlen : c.pktRoom = ctx.pktRoom := by rw [← hc]; rfl
        have hsock : sockOf c sockId.toNat = { sockOf ctx sockId.toNat with localPort := nr } := by
          rw [← hc, sockOf_setSock]
        rcases @txSend_cases c sockId.toNat core txPort txIp a (by rw [hlen]; exact hroom) with
          ⟨hq, hret⟩ | ⟨hq, c₁, hmaps, heq⟩
        · rw [hqueues, hsock] at hq
          constructor
          · intro _ nr' h
            cases h
            exact ⟨hnr, hq⟩
          · intro _ h
            exact absurd h hret
        · rw [heq]
          rw [hqueues, hsock] at hq
          constructor
          · intro h
            have hlocal := ((h rfl).socks sockId.toNat).localPort
            rw [sockOf_setSock, hsock, hzero] at hlocal
            exact absurd hlocal hnr
          · intro h
            exact absurd (hq.symm.trans (h nr rfl).2) Bool.false_ne_true

/-- The entry is a transmit bump that passes the tests before the port. -/
def DeqErrorClean (ctx : UdpCtx) : Prop :=
  ∀ sockId core txPort txIp a, ctx.qe = .bumpChamTx sockId core txPort txIp a →
    ctx.qeOff + queueEntrySize ≤ ctx.shmLen → udpPktInnerSize ≤ ctx.pktRoom →
    core.toNat < maxFpCores → TxErrorClean ctx (sockOf ctx sockId.toNat) core a

/-- A failed dequeue changes nothing exactly when it is a clean one. -/
theorem udpEventDeq_clean_iff (ctx : UdpCtx) :
    ((udpEventDeq ctx).2 = none → SameState ctx (udpEventDeq ctx).1) ↔ DeqErrorClean ctx := by
  have hself : ∀ {P : Prop}, P → (((ctx, none) : UdpCtx × Ret).2 = none →
      SameState ctx ((ctx, none) : UdpCtx × Ret).1 ↔ P) :=
    fun hp => ⟨fun _ => hp, fun _ _ => .refl ctx⟩
  unfold udpEventDeq DeqErrorClean
  by_cases hqe : ctx.qeOff + queueEntrySize > ctx.shmLen
  · rw [if_pos hqe]
    exact hself fun _ _ _ _ _ _ hle => absurd hqe (Nat.not_lt.mpr hle)
  · rw [if_neg hqe]
    cases htype : ctx.qe with
    | bumpChamTx sockId core txPort txIp a =>
      dsimp only
      by_cases hroom : udpPktInnerSize > ctx.pktRoom
      · unfold handleBumpTx
        rw [if_pos hroom]
        exact hself fun _ _ _ _ _ _ _ hle => absurd hroom (Nat.not_lt.mpr hle)
      · by_cases hcore : core.toNat ≥ maxFpCores
        · unfold handleBumpTx
          rw [if_neg hroom, if_pos hcore]
          refine hself ?_
          rintro _ _ _ _ _ heq _ _ hlt
          cases heq
          omega
        · rw [handleBumpTx_clean_iff hroom (Nat.lt_of_not_le hcore)]
          constructor
          · intro h _ _ _ _ _ heq _ _ _
            cases heq
            exact h
          · intro h
            exact h sockId core txPort txIp a rfl (Nat.not_lt.mp hqe) (Nat.not_lt.mp hroom)
              (Nat.lt_of_not_le hcore)
    | bumpChamRx sockId core rxHead =>
      dsimp only
      have hno : ∀ sockId' core' txPort txIp a,
          UdpQe.bumpChamRx sockId core rxHead = .bumpChamTx sockId' core' txPort txIp a →
          ctx.qeOff + queueEntrySize ≤ ctx.shmLen → udpPktInnerSize ≤ ctx.pktRoom →
          core'.toNat < maxFpCores → TxErrorClean ctx (sockOf ctx sockId'.toNat) core' a := by
        intro _ _ _ _ _ h
        cases h
      unfold handleBumpRx
      split
      · exact hself hno
      · split
        · exact hself hno
        · constructor
          · intro _
            exact hno
          · intro _ h
            cases h
    | bumpAppTx opaquePtr txHead => exact hself fun _ _ _ _ _ h => nomatch h
    | bumpAppRx opaquePtr core rxPort rxIp rxAvail => exact hself fun _ _ _ _ _ h => nomatch h
    | unknown => exact hself fun _ _ _ _ _ h => nomatch h

/-- **A failed UDP event changes nothing** exactly when the failure is a
clean one, on both handlers and every context. -/
theorem udp_error_untouched_iff (ctx : UdpCtx) :
    (((udpEventRx ctx).2 = none → SameState ctx (udpEventRx ctx).1) ↔ RxErrorClean ctx) ∧
    (((udpEventDeq ctx).2 = none → SameState ctx (udpEventDeq ctx).1) ↔ DeqErrorClean ctx) :=
  ⟨udpEventRx_clean_iff ctx, udpEventDeq_clean_iff ctx⟩

/-- Two sockets that share port 2000, with 64 bytes of ring and no port of their
own. -/
def sharedPortMaps : UdpMaps :=
  { ports := fun i =>
      if i = 2000 then { nsocks := 2, nextSock := fun _ => 0, sids := fun i => UInt32.ofNat i }
      else { nsocks := 0, nextSock := fun _ => 0, sids := fun _ => 0 }
    socks := fun i =>
      { id := UInt32.ofNat i, opaquePtr := 0, txCore := 0, rxCore := 0, appBumpQids := fun _ => 0
        localIp := 7, localPort := 0, reuport := true, rxLen := 64, rxAvail := 0, rxHead := 0
        rxOff := 0, txLen := 64, txAvail := 0, txHead := 0, txOff := 64 }
    sockNelems := 2
    nextPort := some 1002 }

/-- A datagram of 4 bytes, or a bump for 4 bytes, with no room to tell the
application. -/
def fullQueueCtx : UdpCtx :=
  { datagramTo2000 0 sharedPortMaps with
    ncores := 1
    equeues := fun _ => { items := List.replicate 4 .unknown, nelems := 4 }
    qe := .bumpChamTx 0 0 53 9 4 }

/-- Both events fail: the first has counted four bytes and moved the turn of
the port, the second has bound a port and moved the ring. -/
theorem udp_error_touches :
    ((udpEventRx fullQueueCtx).2 = none ∧
      (sockOf (udpEventRx fullQueueCtx).1 0).rxAvail = 4 ∧
      (portOf (udpEventRx fullQueueCtx).1 2000).nextSock 0 = 1 ∧
      ¬ SameState fullQueueCtx (udpEventRx fullQueueCtx).1) ∧
    ((udpEventDeq fullQueueCtx).2 = none ∧
      (sockOf (udpEventDeq fullQueueCtx).1 0).txHead = 4 ∧
      (sockOf (udpEventDeq fullQueueCtx).1 0).localPort = 1002 ∧
      (udpEventDeq fullQueueCtx).1.maps.nextPort = some 1003 ∧
      ¬ SameState fullQueueCtx (udpEventDeq fullQueueCtx).1) := by
  have hrx : (sockOf (udpEventRx fullQueueCtx).1 0).rxAvail = 4 := by decide
  have htx : (sockOf (udpEventDeq fullQueueCtx).1 0).txHead = 4 := by decide
  refine ⟨⟨by decide, hrx, by decide, ?_⟩, ⟨by decide, htx, by decide, by decide, ?_⟩⟩
  · intro hsame
    have := (hsame.socks 0).rxAvail
    rw [hrx] at this
    exact absurd this (by decide)
  · intro hsame
    have := (hsame.socks 0).txHead
    rw [htx] at this
    exact absurd this (by decide)

end Chamelio.Udp
