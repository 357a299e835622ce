import Chamelio.Fast.StaleBytes
import Chamelio.Udp.RxBoundary

/-!
# The bytes `udp_event_rx` looks at

The UDP handler compares the length of the datagram with `ip.len` before it
reads behind the IP header, so `ip.len` bounds what it reads, or the twenty
bytes of the header itself if that is more. `udp_rx_reads_claimed` says that no
byte behind makes any difference.

It does not compare `ip.len` with the frame. `truncated_datagram_tells` gives a
datagram whose frame ends with the UDP header: the socket gets four bytes that
were in the buffer.

Mirroring notes: `pktRoom` bounds the headers only; the payload is copied out of
the buffer up to `udp.len`.
-/

namespace Chamelio.Udp

open Chamelio.Lib Chamelio.Util Chamelio.Pkt Chamelio.Fast

/-- Where the bytes end that `ip.len` speaks of, the IP header included. -/
def rxClaimed (p : Nat → UInt8) : Nat := max 20 (ipLen p).toNat

/-- The counters of the receive ring fit the ring. -/
structure RingFits (s : UdpSock) : Prop where
  avail : s.rxAvail.toNat ≤ s.rxLen.toNat
  noWrap : s.rxHead.toNat + s.rxLen.toNat < 4294967296
  head : s.rxHead.toNat < s.rxLen.toNat ∨ s.rxHead.toNat = 0

/-- What a handler returns on two packets. -/
abbrev SameReply (r r' : UdpCtx × Ret) : Prop := SameOutcome (fun ret => ret.getD 0) r r'

section stages

variable {ctx : UdpCtx} {q : Nat → UInt8}

/-- A datagram is accepted or not whatever lies behind it, and all of it is
claimed. -/
theorem rxParse_withPkt (h : ∀ i, i < rxClaimed ctx.pkt → q i = ctx.pkt i) :
    rxParse (ctx.withPkt q) = rxParse ctx ∧
    ∀ hl len, rxParse ctx = some (hl, len) →
      hl + len.toNat ≤ rxClaimed ctx.pkt ∧ udpHdrSize ≤ len.toNat := by
  have h20 : ∀ i, i < 20 → q i = ctx.pkt i := fun i hi => h i (by unfold rxClaimed; omega)
  have hv : iphV q = iphV ctx.pkt := by
    unfold iphV
    rw [h20 0 (by omega)]
  have hhl : iphHl q = iphHl ctx.pkt := by
    unfold iphHl
    rw [h20 0 (by omega)]
  have hproto : ipProto q = ipProto ctx.pkt := h20 9 (by omega)
  have hoff : ipOffset q = ipOffset ctx.pkt := be16_congr fun i _ hi => h20 i (by omega)
  have htot : ipLen q = ipLen ctx.pkt := be16_congr fun i _ hi => h20 i (by omega)
  -- the length of the datagram is read only if `ip.len` covers the UDP header
  have hlen : iphHl ctx.pkt * 4 + udpHdrSize ≤ (ipLen ctx.pkt).toNat →
      udpLen q (iphHl ctx.pkt * 4) = udpLen ctx.pkt (iphHl ctx.pkt * 4) := by
    intro hle
    unfold udpHdrSize at hle
    refine be16_congr fun i _ hi => h i ?_
    unfold rxClaimed
    omega
  have hroom : (ctx.withPkt q).pktRoom = ctx.pktRoom := rfl
  constructor
  · unfold rxParse
    dsimp only
    rw [EbpfCtx.withPkt_pkt, hroom, hv, hhl, hproto, hoff, htot]
    by_cases hle : iphHl ctx.pkt * 4 + udpHdrSize ≤ (ipLen ctx.pkt).toNat
    · rw [hlen hle]
    · rw [if_pos (Nat.not_le.mp hle), if_pos (Nat.not_le.mp hle)]
  · intro hl len hp
    unfold rxParse at hp
    simp only [Option.ite_none_left_eq_some, Option.some.injEq, Prod.mk.injEq] at hp
    obtain ⟨-, -, -, -, -, -, hshort, hfits, rfl, rfl⟩ := hp
    unfold rxClaimed
    omega

/-- The socket is found, and the port rotated, in the same way. -/
theorem udpSockFind_withPkt (port : UInt16) :
    udpSockFind (ctx.withPkt q) port =
      ((udpSockFind ctx port).1.withPkt q, (udpSockFind ctx port).2) := by
  have hrot : ∀ idx, udpRotate (ctx.withPkt q) port idx = (udpRotate ctx port idx).withPkt q := by
    intro idx
    unfold udpRotate
    dsimp only
    show (if (portOf ctx port).nsocks > 1 then _ else _) = _
    split <;> rfl
  unfold udpSockFind
  have hport : portOf (ctx.withPkt q) port = portOf ctx port := rfl
  have hcore : (ctx.withPkt q).core = ctx.core := rfl
  have hmaps : (ctx.withPkt q).maps = ctx.maps := rfl
  dsimp only
  rw [hport, hcore, hmaps]
  split
  · rfl
  split
  · rfl
  split
  · rfl
  split
  · rfl
  split
  · rfl
  · rw [hrot]

/-- The payload is stored as far as the ring has room for it. -/
theorem rxCopyPayload_withPkt {s : UdpSock} {src n : Nat} {b : UInt16} (hfits : RingFits s)
    (hroom : s.rxAvail.toNat + b.toNat ≤ s.rxLen.toNat) (hend : src + b.toNat ≤ n)
    (h : ∀ i, i < n → q i = ctx.pkt i) :
    rxCopyPayload (ctx.withPkt q) s src b = (rxCopyPayload ctx s src b).withPkt q := by
  have hread : ∀ i, i < b.toNat → q (src + i) = ctx.pkt (src + i) := fun i hi => h _ (by omega)
  have hshm : (rxCopyPayload (ctx.withPkt q) s src b).shm = (rxCopyPayload ctx s src b).shm := by
    by_cases hhead : s.rxHead.toNat < s.rxLen.toNat
    · rw [rxCopyPayload_shm src hhead hroom hfits.noWrap,
        rxCopyPayload_shm src hhead hroom hfits.noWrap]
      exact ringWrite_reads hread
    · -- a ring without a byte, and a payload without one
      have hzero : ∀ w : UInt32, w.toNat = 0 → w = 0 := fun w hw => UInt32.toNat_inj.mp hw
      have hhead0 := hzero _ (hfits.head.resolve_left hhead)
      have hlen0 := hzero s.rxLen (by have := hfits.head.resolve_left hhead; omega)
      have havail0 := hzero s.rxAvail (by rw [hlen0] at hroom; simp at hroom; omega)
      have hb0 : b = 0 := UInt16.toNat_inj.mp (by rw [hlen0] at hroom; simp at hroom ⊢; omega)
      unfold rxCopyPayload
      rw [hhead0, hlen0, havail0, hb0]
      dsimp only
      rw [if_pos (by decide), if_pos (by decide)]
      show blit ctx.shm _ (fun i => q (src + i)) 0 = blit ctx.shm _ (fun i => ctx.pkt (src + i)) 0
      exact blit_reads fun i hi => absurd hi (Nat.not_lt_zero i)
  have hrest : ∀ c : UdpCtx, rxCopyPayload c s src b =
      { c with shm := (rxCopyPayload c s src b).shm } := by
    intro c
    unfold rxCopyPayload
    dsimp only
    split <;> rfl
  rw [hrest (ctx.withPkt q), hshm, hrest ctx]
  rfl

/-- From the socket on, the payload ends where the datagram does. -/
theorem sameReply_rxDeliver {sid hl n : Nat} {len : UInt16} (hfits : RingFits (sockOf ctx sid))
    (hsmall : udpHdrSize ≤ len.toNat) (hn : 20 ≤ n) (hend : hl + len.toNat ≤ n)
    (h : ∀ i, i < n → q i = ctx.pkt i) :
    SameReply (rxDeliver ctx sid hl len) (rxDeliver (ctx.withPkt q) sid hl len) := by
  unfold udpHdrSize at hsmall
  have hsrc : udpSrc q hl = udpSrc ctx.pkt hl := be16_congr fun i _ hi => h i (by omega)
  have hip : ipSrc q = ipSrc ctx.pkt := be32_congr fun i _ hi => h i (by omega)
  have hpay : (len - 8).toNat = len.toNat - 8 := UInt16.toNat_sub_of_le _ _ hsmall
  have hsock : sockOf (ctx.withPkt q) sid = sockOf ctx sid := rfl
  have hcore : (ctx.withPkt q).core = ctx.core := rfl
  unfold rxDeliver
  dsimp only
  rw [hsock, hcore]
  split
  · exact sameOutcome_silent rfl
  split
  · exact sameOutcome_silent rfl
  · next hfree =>
    have hroom : (sockOf ctx sid).rxAvail.toNat + (len - 8).toNat ≤
        (sockOf ctx sid).rxLen.toNat := by
      have hle := UInt32.le_iff_toNat_le.mp (UInt32.not_lt.mp hfree)
      rw [UInt16.toNat_toUInt32, toNat_sub_of_le hfits.avail] at hle
      have := hfits.avail
      omega
    rw [rxCopyPayload_withPkt hfits hroom (by unfold udpHdrSize; omega) h]
    have hset : ∀ (c : UdpCtx) (s : UdpSock), setSock (c.withPkt q) sid s =
        (setSock c sid s).withPkt q := fun _ _ => rfl
    have hqs : ∀ c : UdpCtx, (c.withPkt q).equeues = c.equeues := fun _ => rfl
    have hpkt : ∀ s : UdpSock, (setSock (rxCopyPayload ctx (sockOf ctx sid)
        (hl + udpHdrSize) (len - 8)) sid s).pkt = ctx.pkt := by
      intro s
      show (rxCopyPayload _ _ _ _).pkt = _
      unfold rxCopyPayload
      dsimp only
      split <;> rfl
    rw [hset, EbpfCtx.withPkt_pkt, hqs, hsrc, hip, hpkt]
    split
    · exact sameOutcome_silent rfl
    · exact sameOutcome_silent rfl

end stages

/-- **`udp_event_rx` reads no byte that `ip.len` does not claim.** Whatever
lies in the buffer behind it, the handler returns the same and leaves every
port, socket, queue and ring the same. -/
theorem udp_rx_reads_claimed {ctx : UdpCtx} {q : Nat → UInt8}
    (hfits : ∀ sid, RingFits (sockOf ctx sid))
    (h : ∀ i, i < rxClaimed ctx.pkt → q i = ctx.pkt i) :
    SameReply (udpEventRx ctx) (udpEventRx (ctx.withPkt q)) := by
  obtain ⟨hsame, hends⟩ := rxParse_withPkt h
  unfold udpEventRx
  rw [hsame]
  cases hp : rxParse ctx with
  | none => exact sameOutcome_silent rfl
  | some found =>
    obtain ⟨hl, len⟩ := found
    obtain ⟨hend, hsmall⟩ := hends hl len hp
    have hdst : udpDst q hl = udpDst ctx.pkt hl := by
      unfold udpHdrSize at hsmall
      exact be16_congr fun i _ hi => h i (by omega)
    dsimp only
    rw [EbpfCtx.withPkt_pkt, hdst, udpSockFind_withPkt]
    obtain ⟨ports, hframe⟩ := udpSockFind_frame ctx (udpDst ctx.pkt hl)
    generalize udpSockFind ctx (udpDst ctx.pkt hl) = found at hframe ⊢
    obtain ⟨c, sid⟩ := found
    subst hframe
    cases sid with
    | none => exact sameOutcome_silent rfl
    | some sid => exact sameReply_rxDeliver (hfits sid) hsmall (Nat.le_max_left _ _) hend h

/-! ## A frame that is cut off -/

/-- Twenty-eight bytes of headers that claim four bytes of payload, in a buffer
that holds `x` from there on. -/
def cutDatagram (x : UInt8) : Nat → UInt8 := fun i =>
  ([0x45, 0, 0, 32, 0, 0, 0, 0, 64, 17, 0, 0, 10, 0, 0, 2, 10, 0, 0, 1, 0, 7, 0x1f, 0x90, 0, 12,
    0, 0] : List UInt8).getD i x

/-- One socket, bound to every port, with a ring of sixty-four bytes. -/
def cutCtx (x : UInt8) : UdpCtx :=
  { pkt := cutDatagram x
    pktRoom := fastL3PktRoom
    shm := fun _ => 0
    shmLen := 256
    sched := schedInit
    qe := .unknown
    qeOff := 0
    ncores := 1
    core := 0
    dqueues := fun _ => { q := { items := [], nelems := 4 }, off := 0, elsize := 64, head := 0 }
    equeues := fun _ => { items := [], nelems := 4 }
    maps :=
      { ports := fun _ => { nsocks := 1, nextSock := fun _ => 0, sids := fun _ => 0 }
        socks := fun _ =>
          { id := 0, opaquePtr := 7, txCore := 0, rxCore := 0, appBumpQids := fun _ => 0
            localIp := 0x0a000001, localPort := 8080, reuport := false
            rxLen := 64, rxAvail := 0, rxHead := 0, rxOff := 0
            txLen := 64, txAvail := 0, txHead := 0, txOff := 64 }
        sockNelems := 1
        nextPort := some minPort }
    clk := { readings := fun _ => 0, reads := 0, tscToUs := id, cyclesPerUs := 1 } }

/-- What was received is the same in both buffers, and the application is given
what was left over in the one or in the other. -/
theorem truncated_datagram_tells :
    (∀ i, i < 28 → (cutCtx 2).pkt i = (cutCtx 1).pkt i) ∧
    (udpEventRx (cutCtx 1)).1.shm 3 = 1 ∧ (udpEventRx (cutCtx 2)).1.shm 3 = 2 := by
  refine ⟨fun i hi => ?_, by decide, by decide⟩
  show cutDatagram 2 i = cutDatagram 1 i
  unfold cutDatagram
  rw [List.getD_eq_getElem?_getD, List.getD_eq_getElem?_getD, List.getElem?_eq_getElem hi]
  rfl

/-- What lies behind the four bytes makes no difference. -/
theorem udp_rx_reads_claimed_cut : SameReply (udpEventRx (cutCtx 1))
    (udpEventRx ((cutCtx 1).withPkt fun i => if i < 32 then cutDatagram 1 i else 9)) := by
  refine udp_rx_reads_claimed (fun sid => ⟨?_, ?_, ?_⟩) fun i hi => if_pos ?_
  · show 0 ≤ 64
    omega
  · show 0 + 64 < 4294967296
    omega
  · exact Or.inr rfl
  · have hclaimed : rxClaimed (cutCtx 1).pkt = 32 := by decide
    omega

end Chamelio.Udp
