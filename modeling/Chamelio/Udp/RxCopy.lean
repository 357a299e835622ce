import Chamelio.Udp.EbpfAgree
import Chamelio.Udp.RxBoundary

/-!
# What `udp_event_rx` copies

The handler compares five lengths: the packet with the IP header, the total
length of the IP header with both headers, the packet with both headers, the
length of the UDP header with itself, and the total length with the end of
the datagram. The end of the packet is compared with the end of the headers
only, so a datagram whose headers agree with each other but not with the
packet is read past `pkt_end`.

Mirroring notes:
- A `Copy` is one `memcpy`: an offset into the shared memory, an offset into
  the packet and a length. `rxCopies` lists the ones a run of the handler
  makes, `udpEventRx_copies` ties the list to the handler.
- Both copies of the handler have the same text from the socket on; they
  differ in the search, which is a parameter.
-/

namespace Chamelio.Udp

open Chamelio.Lib Chamelio.Util Chamelio.Pkt Chamelio.Fast

/-- One `memcpy` out of the packet. -/
structure Copy where
  dst : Nat
  src : Nat
  len : Nat
  deriving DecidableEq

/-- The memory after the `memcpy`. -/
def Copy.run (pkt shm : Nat → UInt8) (c : Copy) : Nat → UInt8 :=
  blit shm c.dst (fun i => pkt (c.src + i)) c.len

/-- The parts in which the payload goes into the ring. -/
def rxParts (sock : UdpSock) (src : Nat) (payloadLen : UInt16) : List Copy :=
  let rxBase := sock.rxOff.toNat
  let tail := wrapAdd sock.rxHead sock.rxAvail sock.rxLen
  if tail + payloadLen.toUInt32 ≤ sock.rxLen then
    [{ dst := rxBase + tail.toNat, src, len := payloadLen.toNat }]
  else
    let part := sock.rxLen - tail
    [{ dst := rxBase + tail.toNat, src, len := part.toNat },
     { dst := rxBase, src := src + part.toNat, len := (payloadLen.toUInt32 - part).toNat }]

/-- The socket and the parts, if the handler gets as far as the copy. -/
def rxCopies (find : UdpCtx → UInt16 → UdpCtx × Option Nat) (ctx : UdpCtx) :
    Option (Nat × List Copy) :=
  match rxParse ctx with
  | none => none
  | some (ipHdrsLen, udpLength) =>
    match (find ctx (udpDst ctx.pkt ipHdrsLen)).2 with
    | none => none
    | some sid =>
      let payloadLen := udpLength - 8
      let sock := sockOf ctx sid
      if ctx.core.toNat ≥ maxFpCores then none
      else if payloadLen.toUInt32 > sock.rxLen - sock.rxAvail then none
      else some (sid, rxParts sock (ipHdrsLen + udpHdrSize) payloadLen)

/-- The memory after all copies. -/
def runCopies (ctx : UdpCtx) : Option (Nat × List Copy) → Nat → UInt8
  | none => ctx.shm
  | some (_, parts) => parts.foldl (Copy.run ctx.pkt) ctx.shm

/-! ## The list is what the handlers do -/

theorem rxCopyPayload_run (ctx : UdpCtx) (sock : UdpSock) (src : Nat) (n : UInt16) :
    (rxCopyPayload ctx sock src n).shm = (rxParts sock src n).foldl (Copy.run ctx.pkt) ctx.shm := by
  unfold rxCopyPayload rxParts
  dsimp only
  split
  · rfl
  · rfl

/-- The search of either copy moves the rotation of a port at most. -/
theorem Ebpf.udpSockFind_frame (ctx : UdpCtx) (dstPort : UInt16) :
    ∃ ports, (Ebpf.udpSockFind ctx dstPort).1 = { ctx with maps := { ctx.maps with ports } } := by
  have hsame : ∃ ports, ctx = { ctx with maps := { ctx.maps with ports } } := ⟨_, rfl⟩
  unfold Ebpf.udpSockFind
  dsimp only
  generalize (if (ctx.maps.ports (portMapLookup dstPort)).nsocks = 1 then 0
    else (ctx.maps.ports (portMapLookup dstPort)).nextSock ctx.core.toNat) = idx
  split
  · exact hsame
  split
  · exact hsame
  split
  · exact hsame
  split
  · exact hsame
  split
  · exact hsame
  · unfold udpRotate
    dsimp only
    split
    · exact ⟨_, rfl⟩
    · exact hsame

/-- From the socket on, the copies and nothing else reach the memory. -/
theorem rxDeliver_copies (ctx : UdpCtx) (sid ipHdrsLen : Nat) (udpLength : UInt16) :
    (rxDeliver ctx sid ipHdrsLen udpLength).1.shm = runCopies ctx
      (if ctx.core.toNat ≥ maxFpCores then none
      else if (udpLength - 8).toUInt32 > (sockOf ctx sid).rxLen - (sockOf ctx sid).rxAvail then none
      else some (sid, rxParts (sockOf ctx sid) (ipHdrsLen + udpHdrSize) (udpLength - 8))) := by
  unfold rxDeliver
  dsimp only
  split
  · rfl
  · split
    · rfl
    · rw [show runCopies ctx (some (sid, rxParts (sockOf ctx sid) (ipHdrsLen + udpHdrSize)
          (udpLength - 8))) = _ from (rxCopyPayload_run ctx _ _ _).symm]
      split
      · rfl
      · rfl

/-- The memory after the hand-written handler. -/
theorem udpEventRx_copies (ctx : UdpCtx) :
    (udpEventRx ctx).1.shm = runCopies ctx (rxCopies udpSockFind ctx) := by
  unfold udpEventRx rxCopies
  cases rxParse ctx with
  | none => rfl
  | some lens =>
    obtain ⟨ipHdrsLen, udpLength⟩ := lens
    dsimp only
    obtain ⟨ports, hframe⟩ := udpSockFind_frame ctx (udpDst ctx.pkt ipHdrsLen)
    generalize udpSockFind ctx (udpDst ctx.pkt ipHdrsLen) = r at hframe ⊢
    obtain ⟨c, found⟩ := r
    cases hframe
    cases found with
    | none => rfl
    | some sid => exact rxDeliver_copies _ sid ipHdrsLen udpLength

/-- The memory after the eBPF program. -/
theorem Ebpf.eventRx_copies (ctx : UdpCtx) :
    (Ebpf.eventRx ctx).1.shm = runCopies ctx (rxCopies Ebpf.udpSockFind ctx) := by
  unfold Ebpf.eventRx rxCopies
  cases rxParse ctx with
  | none => rfl
  | some lens =>
    obtain ⟨ipHdrsLen, udpLength⟩ := lens
    dsimp only
    obtain ⟨ports, hframe⟩ := Ebpf.udpSockFind_frame ctx (udpDst ctx.pkt ipHdrsLen)
    generalize Ebpf.udpSockFind ctx (udpDst ctx.pkt ipHdrsLen) = r at hframe ⊢
    obtain ⟨c, found⟩ := r
    cases hframe
    cases found with
    | none => rfl
    | some sid =>
      dsimp only
      rw [Ebpf.rxDeliver_eq]
      exact rxDeliver_copies _ sid ipHdrsLen udpLength

/-! ## Where the copies lie -/

/-- The ring of a socket in order. -/
structure RxRingIn (s : UdpSock) : Prop where
  head : s.rxHead.toNat < s.rxLen.toNat
  len : s.rxLen.toNat ≤ 2147483648
  avail : s.rxAvail.toNat ≤ s.rxLen.toNat

/-- The copies of a datagram read its payload, all of it and inside packet
and total length, and write free bytes of the ring. -/
structure CopySafe (ctx : UdpCtx) (s : UdpSock) (parts : List Copy) : Prop where
  payload : (parts.flatMap fun c => List.range' c.src c.len) =
    List.range' (iphHl ctx.pkt * 4 + udpHdrSize)
      ((udpLen ctx.pkt (iphHl ctx.pkt * 4)).toNat - udpHdrSize)
  packet : ∀ c ∈ parts, c.src + c.len ≤ ctx.pktRoom
  total : ∀ c ∈ parts, c.src + c.len ≤ (ipLen ctx.pkt).toNat
  ring : ∀ c ∈ parts, s.rxOff.toNat ≤ c.dst ∧ c.dst + c.len ≤ s.rxOff.toNat + s.rxLen.toNat
  unread : ∀ c ∈ parts, ∀ k < s.rxAvail.toNat, ∀ i < c.len,
    c.dst + i ≠ s.rxOff.toNat + (s.rxHead.toNat + k) % s.rxLen.toNat

/-- What the tests on the headers establish. -/
theorem rxParse_spec {ctx : UdpCtx} {ipHdrsLen : Nat} {udpLength : UInt16}
    (h : rxParse ctx = some (ipHdrsLen, udpLength)) :
    ipHdrsLen = iphHl ctx.pkt * 4 ∧ udpLength = udpLen ctx.pkt (iphHl ctx.pkt * 4) ∧
    ipHdrsLen + udpHdrSize ≤ ctx.pktRoom ∧ udpHdrSize ≤ udpLength.toNat ∧
    ipHdrsLen + udpLength.toNat ≤ (ipLen ctx.pkt).toNat := by
  unfold rxParse at h
  dsimp only at h
  split at h
  · cases h
  split at h
  · cases h
  split at h
  · cases h
  split at h
  · cases h
  split at h
  · cases h
  split at h
  · cases h
  · next hroom =>
    split at h
    · cases h
    · next hmin =>
      split at h
      · cases h
      · next htotal =>
        cases h
        exact ⟨rfl, rfl, Nat.not_lt.mp hroom, Nat.not_lt.mp hmin, Nat.not_lt.mp htotal⟩

/-- The bytes behind what the ring holds, up to a fill, are not the bytes it
holds. -/
private theorem ring_positions_ne {head avail len k j : Nat} (hhead : head < len) (hk : k < avail)
    (hj : avail ≤ j) (hfill : j < len) : (head + j) % len ≠ (head + k) % len := by
  rw [mod_once (show head + j < 2 * len by omega), mod_once (show head + k < 2 * len by omega)]
  split <;> split <;> omega

/-- The position of byte `i` behind what the ring holds, from the position
where the copy starts. -/
private theorem ring_behind {head avail len i : Nat} (hhead : head < len) (hi : avail + i < len) :
    (head + (avail + i)) % len = if (head + avail) % len + i < len then (head + avail) % len + i
      else (head + avail) % len + i - len := by
  rw [mod_once (show head + (avail + i) < 2 * len by omega),
    mod_once (show head + avail < 2 * len by omega)]
  split <;> split <;> split <;> omega

/-- The parts of a payload that fits: the payload in order, in the ring,
behind what it holds. -/
theorem rxParts_spec {s : UdpSock} (h : RxRingIn s) (src : Nat) {n : UInt16}
    (hfit : s.rxAvail.toNat + n.toNat ≤ s.rxLen.toNat) :
    ((rxParts s src n).flatMap fun c => List.range' c.src c.len) = List.range' src n.toNat ∧
    (∀ c ∈ rxParts s src n, c.src + c.len ≤ src + n.toNat) ∧
    (∃ c ∈ rxParts s src n, c.src + c.len = src + n.toNat) ∧
    (∀ c ∈ rxParts s src n, s.rxOff.toNat ≤ c.dst ∧
      c.dst + c.len ≤ s.rxOff.toNat + s.rxLen.toNat) ∧
    ∀ c ∈ rxParts s src n, ∀ i < c.len, ∃ j, s.rxAvail.toNat ≤ j ∧ j < s.rxLen.toNat ∧
      c.dst + i = s.rxOff.toNat + (s.rxHead.toNat + j) % s.rxLen.toNat := by
  have hn : n.toUInt32.toNat = n.toNat := UInt16.toNat_toUInt32 n
  have hhead := h.head
  have hlen := h.len
  obtain ⟨htail, hiff, hpart, hrest⟩ :=
    @ringIndex s.rxHead s.rxAvail s.rxLen n.toUInt32 hhead (by rw [hn]; exact hfit) (by omega)
  rw [hn] at hiff hrest
  have hpos : (s.rxHead.toNat + s.rxAvail.toNat) % s.rxLen.toNat < s.rxLen.toNat :=
    Nat.mod_lt _ (by omega)
  have hbehind : ∀ i, s.rxAvail.toNat + i < s.rxLen.toNat → _ := fun i hi => ring_behind hhead hi
  unfold rxParts
  dsimp only
  rw [htail]
  generalize (s.rxHead.toNat + s.rxAvail.toNat) % s.rxLen.toNat = t at *
  split
  · next hone =>
    have hone' := hiff.mp hone
    simp only [List.flatMap_cons, List.flatMap_nil, List.append_nil, List.mem_singleton,
      forall_eq, exists_eq_left]
    refine ⟨trivial, Nat.le_refl _, trivial, by omega, ?_⟩
    intro i hi
    refine ⟨s.rxAvail.toNat + i, by omega, by omega, ?_⟩
    rw [hbehind i (by omega), if_pos (by omega)]
    omega
  · -- the second part starts at the base of the ring
    next htwo =>
    have htwo' : ¬ t + n.toNat ≤ s.rxLen.toNat := fun hle => htwo (hiff.mpr hle)
    rw [hpart, hrest htwo]
    simp only [List.flatMap_cons, List.flatMap_nil, List.append_nil, List.mem_cons,
      List.not_mem_nil, or_false, forall_eq_or_imp, forall_eq, exists_eq_or_imp, exists_eq_left]
    refine ⟨?_, by omega, .inr (by omega), by omega, ?_, ?_⟩
    · rw [List.range'_append_1]
      congr 1
      omega
    · intro i hi
      refine ⟨s.rxAvail.toNat + i, by omega, by omega, ?_⟩
      rw [hbehind i (by omega), if_pos (by omega)]
      omega
    · intro i hi
      refine ⟨s.rxAvail.toNat + (s.rxLen.toNat - t + i), by omega, by omega, ?_⟩
      rw [hbehind _ (by omega), if_neg (by omega)]
      omega

/-- The handler got as far as the copy. -/
theorem rxCopies_some {find : UdpCtx → UInt16 → UdpCtx × Option Nat} {ctx : UdpCtx} {sid : Nat}
    {parts : List Copy} (h : rxCopies find ctx = some (sid, parts)) :
    ∃ udpLength, rxParse ctx = some (iphHl ctx.pkt * 4, udpLength) ∧
      (udpLength - 8).toUInt32 ≤ (sockOf ctx sid).rxLen - (sockOf ctx sid).rxAvail ∧
      parts = rxParts (sockOf ctx sid) (iphHl ctx.pkt * 4 + udpHdrSize) (udpLength - 8) := by
  unfold rxCopies at h
  split at h
  · cases h
  · next ipHdrsLen udpLength hparse =>
    obtain ⟨rfl, -, -, -, -⟩ := rxParse_spec hparse
    split at h
    · cases h
    · dsimp only at h
      split at h
      · cases h
      · split at h
        · cases h
        · next hfree =>
          cases h
          exact ⟨udpLength, hparse, UInt32.not_lt.mp hfree, rfl⟩

/-- Whichever search found the socket: the copies are safe exactly when the
datagram ends inside the packet. -/
theorem rxCopies_safe_iff {find : UdpCtx → UInt16 → UdpCtx × Option Nat} {ctx : UdpCtx}
    {sid : Nat} {parts : List Copy} (h : rxCopies find ctx = some (sid, parts))
    (hring : RxRingIn (sockOf ctx sid)) :
    CopySafe ctx (sockOf ctx sid) parts ↔
      iphHl ctx.pkt * 4 + (udpLen ctx.pkt (iphHl ctx.pkt * 4)).toNat ≤ ctx.pktRoom := by
  obtain ⟨udpLength, hparse, hfree, rfl⟩ := rxCopies_some h
  obtain ⟨-, hudp, -, hmin, htotal⟩ := rxParse_spec hparse
  have h8 : udpHdrSize = 8 := rfl
  have hlen : (udpLength - 8).toNat = udpLength.toNat - 8 :=
    UInt16.toNat_sub_of_le _ _ (UInt16.le_iff_toNat_le.mpr hmin)
  have hfit : (sockOf ctx sid).rxAvail.toNat + (udpLength - 8).toNat ≤
      (sockOf ctx sid).rxLen.toNat := by
    have hle := UInt32.le_iff_toNat_le.mp hfree
    have havail := hring.avail
    rw [UInt16.toNat_toUInt32, toNat_sub_of_le havail] at hle
    omega
  obtain ⟨hsrc, hle, ⟨last, hlast, hend⟩, hin, hfar⟩ :=
    rxParts_spec hring (iphHl ctx.pkt * 4 + udpHdrSize) hfit
  rw [← hudp]
  constructor
  · intro hsafe
    have := hsafe.packet last hlast
    omega
  · intro hroom
    refine ⟨?_, ?_, ?_, hin, ?_⟩
    · rw [hsrc, ← hudp, hlen, h8]
    · intro c hc
      have := hle c hc
      omega
    · intro c hc
      have := hle c hc
      omega
    · intro c hc k hk i hi heq
      obtain ⟨j, hj, hjlen, hpos⟩ := hfar c hc i hi
      have := ring_positions_ne hring.head hk hj hjlen
      omega

/-- **What `udp_event_rx` copies.** In both copies of the handler the memory
changes by the listed copies, and these read the payload inside the packet
and write free bytes of the ring exactly when the datagram, by the length in
its UDP header, ends before `pkt_end`. -/
theorem udp_rx_copy_safe_iff (ctx : UdpCtx) :
    (udpEventRx ctx).1.shm = runCopies ctx (rxCopies udpSockFind ctx) ∧
    (Ebpf.eventRx ctx).1.shm = runCopies ctx (rxCopies Ebpf.udpSockFind ctx) ∧
    ∀ (sid : Nat) (parts : List Copy),
      rxCopies udpSockFind ctx = some (sid, parts) ∨
        rxCopies Ebpf.udpSockFind ctx = some (sid, parts) →
      RxRingIn (sockOf ctx sid) →
      (CopySafe ctx (sockOf ctx sid) parts ↔
        iphHl ctx.pkt * 4 + (udpLen ctx.pkt (iphHl ctx.pkt * 4)).toNat ≤ ctx.pktRoom) := by
  refine ⟨udpEventRx_copies ctx, Ebpf.eventRx_copies ctx, ?_⟩
  intro sid parts h hring
  rcases h with h | h
  · exact rxCopies_safe_iff h hring
  · exact rxCopies_safe_iff h hring

/-- A socket at port 2000 with an empty ring of 8 KiB. -/
def bigRingMaps : UdpMaps :=
  { ports := fun _ => { nsocks := 1, nextSock := fun _ => 0, sids := fun _ => 0 }
    socks := fun _ =>
      { id := 0, opaquePtr := 0, txCore := 0, rxCore := 0, appBumpQids := fun _ => 0, localIp := 7,
        localPort := 2000, reuport := false, rxLen := 8192, rxAvail := 0, rxHead := 0, rxOff := 0,
        txLen := 0, txAvail := 0, txHead := 0, txOff := 0 }
    sockNelems := 1
    nextPort := none }

/-- A packet whose headers both say 4000 bytes of datagram. -/
def longDatagram : UdpCtx :=
  { datagramTo2000 0 bigRingMaps with
    pkt := put16 (put16 (datagramTo2000 0 bigRingMaps).pkt 2 4020) 24 4000 }

/-- The long datagram is read 2520 bytes past the end of the packet. -/
theorem udp_rx_reads_past_packet :
    rxCopies udpSockFind longDatagram = some (0, [{ dst := 0, src := 28, len := 3992 }]) ∧
    rxCopies Ebpf.udpSockFind longDatagram = some (0, [{ dst := 0, src := 28, len := 3992 }]) ∧
    RxRingIn (sockOf longDatagram 0) ∧
    ¬ CopySafe longDatagram (sockOf longDatagram 0) [{ dst := 0, src := 28, len := 3992 }] := by
  refine ⟨by decide, by decide, ⟨by decide, by decide, by decide⟩, ?_⟩
  intro hsafe
  exact absurd (hsafe.packet _ List.mem_cons_self) (by decide)

/-- A datagram of 12 bytes is copied from inside the packet. -/
theorem udp_rx_copy_safe_iff_short :
    CopySafe (datagramTo2000 0 bigRingMaps) (sockOf (datagramTo2000 0 bigRingMaps) 0)
      [{ dst := 0, src := 28, len := 4 }] :=
  ((udp_rx_copy_safe_iff (datagramTo2000 0 bigRingMaps)).2.2 0 [{ dst := 0, src := 28, len := 4 }]
    (.inl (by decide)) ⟨by decide, by decide, by decide⟩).mpr (by decide)

end Chamelio.Udp
