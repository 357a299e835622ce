import Chamelio.Lib.Bytes
import Chamelio.Util.Queue
import Chamelio.Tcp.FastRx
import Chamelio.Tcp.SlowRx

/-!
# The bytes of a punted packet

`rx_punt_ctl` once more, down to the bytes of the two ring entries it
writes. `Tcp.FastRx` takes a punted packet as a list of header bytes; here
the copy lands in shared memory, in an entry of 64 bytes of the packet
queue, where `ctl_rx_parse` reads it.

Mirroring notes:
- `struct tcp_queue_pkt_entry` is the type byte and 63 bytes of data;
  `struct tcp_queue_ctl_pkt` in them is the packet at 0, the timestamp
  option at 40 and `core` at 52.
- The configuration and the core are valid here: `rx_punt_ctl` returns
  before it touches either queue otherwise.
- Both queues lie in the same shared memory, each from its own base on.
-/

namespace Chamelio.Tcp

open Chamelio.Lib Chamelio.Util Chamelio.Pkt Chamelio.Fast

/-- `sizeof(struct tcp_queue_pkt_entry)`. -/
def pktEntrySize : Nat := 64
/-- `sizeof(struct tcp_queue_ctl_entry)`. -/
def ctlEntrySize : Nat := 32
/-- Offset of `core` in `struct tcp_queue_ctl_pkt`. -/
def ctlPktCore : Nat := 52

/-- The type bytes of the TCP queues. -/
def tcpQueueCtlRx : UInt8 := 23
def tcpQueueCtlRxPkt : UInt8 := 24

/-- The shared memory and the producer's side of one core's two queues. -/
structure PuntMem where
  shm : Nat → UInt8
  pktBase : Nat
  pktQ : Equeue
  sigBase : Nat
  sigQ : Equeue

namespace PuntMem

/-- Address of the tail entry of the packet queue. -/
def pktEntry (s : PuntMem) : Nat := s.pktBase + s.pktQ.tail

/-- Address of the tail entry of the signal queue. -/
def sigEntry (s : PuntMem) : Nat := s.sigBase + s.sigQ.tail

end PuntMem

/-- The bytes from `base` on. -/
def bytesAt (shm : Nat → UInt8) (base : Nat) : Nat → UInt8 := fun i => shm (base + i)

/-- `queue_enqueue` on the queue whose entries start at `base`. -/
def enqueueAt (shm : Nat → UInt8) (base : Nat) (q : Equeue) (t : UInt8) :
    Option ((Nat → UInt8) × Equeue) :=
  match queueEnqueue (bytesAt shm base) q t with
  | none => none
  | some (m, q) => some (fun a => if base ≤ a then m (a - base) else shm a, q)

/-- What `rx_punt_ctl` stores before it enqueues: the header, the core and
the mark of the signal entry. -/
def puntFill (s : PuntMem) (p : Nat → UInt8) (core : UInt16) : Nat → UInt8 :=
  let shm := blit s.shm (s.pktEntry + 1) p (rxGetHdrlen p).toNat
  let shm := lePut shm (s.pktEntry + 1 + ctlPktCore) core.toNat 2
  put8 shm (s.sigEntry + 1) 1

/-- `rx_punt_ctl`; `false`: it returned `-1`. -/
def rxPuntBytes (s : PuntMem) (p : Nat → UInt8) (pktRoom : Nat) (core : UInt16) :
    PuntMem × Bool :=
  match queueTail (bytesAt s.shm s.pktBase) s.pktQ with
  | none => (s, false)
  | some _ =>
    match queueTail (bytesAt s.shm s.sigBase) s.sigQ with
    | none => (s, false)
    | some _ =>
      if pktRoom < (rxGetHdrlen p).toUInt16.toNat then (s, false)
      else
        let s' := { s with shm := puntFill s p core }
        match enqueueAt s'.shm s'.pktBase s'.pktQ tcpQueueCtlRxPkt with
        | none => (s', false)
        | some (shm, pktQ) =>
          let s' := { s' with shm, pktQ }
          match enqueueAt s'.shm s'.sigBase s'.sigQ tcpQueueCtlRx with
          | none => (s', false)
          | some (shm, sigQ) => ({ s' with shm, sigQ }, true)

/-! ## What the call promises -/

/-- The two queues as `tcp_init` makes them, side by side in the memory. -/
structure PuntMem.WellFormed (s : PuntMem) : Prop where
  pktSize : s.pktQ.elsize = pktEntrySize
  sigSize : s.sigQ.elsize = ctlEntrySize
  pktTail : s.pktQ.tail + pktEntrySize ≤ pktEntrySize * s.pktQ.nelems
  sigTail : s.sigQ.tail + ctlEntrySize ≤ ctlEntrySize * s.sigQ.nelems
  apart : s.pktBase + pktEntrySize * s.pktQ.nelems ≤ s.sigBase ∨
    s.sigBase + ctlEntrySize * s.sigQ.nelems ≤ s.pktBase

/-- Only bytes of the two tail entries change. -/
def PuntConfined (s s' : PuntMem) : Prop :=
  ∀ a, s'.shm a ≠ s.shm a →
    (s.pktEntry ≤ a ∧ a < s.pktEntry + pktEntrySize) ∨
      (s.sigEntry ≤ a ∧ a < s.sigEntry + ctlEntrySize)

/-- `ctl_rx_parse` reads the same from the entry as from the packet. -/
def PuntFaithful (s s' : PuntMem) (p : Nat → UInt8) : Prop :=
  ∀ core, ctlRxParse (bytesAt s'.shm (s.pktEntry + 1)) core = ctlRxParse p core

/-- What punting `p` promises, whatever the memory, the room of the packet
buffer and the core: confined, and faithful when it succeeds. -/
def PuntOk (p : Nat → UInt8) : Prop :=
  ∀ (s : PuntMem) (pktRoom : Nat) (core : UInt16), s.WellFormed →
    PuntConfined s (rxPuntBytes s p pktRoom core).1 ∧
      ((rxPuntBytes s p pktRoom core).2 = true →
        PuntFaithful s (rxPuntBytes s p pktRoom core).1 p)

/-! ## The stores of one call -/

theorem rxGetHdrlen_toNat (p : Nat → UInt8) :
    (rxGetHdrlen p).toNat = iphHl p * 4 + tcphHdrlen p * 4 := by
  have h₁ : iphHl p < 16 := Nat.mod_lt _ (by decide)
  have h₂ : tcphHdrlen p < 16 := by
    have := (be16 p 32).toNat_lt
    unfold tcphHdrlen
    omega
  unfold rxGetHdrlen
  rw [UInt32.toNat_ofNat']
  omega

/-- `queue_enqueue` stores one byte of the shared memory. -/
theorem enqueueAt_eq (shm : Nat → UInt8) (base : Nat) (q : Equeue) (t : UInt8) :
    enqueueAt shm base q t =
      if shm (base + q.tail) ≠ 0 then none
      else some (put8 shm (base + q.tail) t, q.advance) := by
  unfold enqueueAt queueEnqueue
  by_cases hz : shm (base + q.tail) ≠ 0
  · rw [if_pos hz, if_pos (show bytesAt shm base q.tail ≠ 0 from hz)]
  · rw [if_neg hz, if_neg (show ¬ bytesAt shm base q.tail ≠ 0 from hz)]
    show some (_, q.advance) = some (_, q.advance)
    congr 2
    funext a
    unfold putType put8 bytesAt
    by_cases ha : base ≤ a
    · rw [if_pos ha]
      by_cases hq : a = base + q.tail
      · rw [if_pos (by omega), if_pos hq]
      · rw [if_neg (by omega), if_neg hq]
        congr 1
        omega
    · rw [if_neg ha, if_neg (by omega)]

theorem enqueueAt_some {shm shm' : Nat → UInt8} {base : Nat} {q q' : Equeue} {t : UInt8}
    (h : enqueueAt shm base q t = some (shm', q')) : shm' = put8 shm (base + q.tail) t := by
  rw [enqueueAt_eq] at h
  split at h
  · cases h
  · cases h
    rfl

/-- The bytes one call may have stored: none, the data of the entries, and
after that the type bytes. -/
theorem rxPuntBytes_shm (s : PuntMem) (p : Nat → UInt8) (pktRoom : Nat) (core : UInt16) :
    let r := rxPuntBytes s p pktRoom core
    let m := puntFill s p core
    (r.2 = false ∧ (r.1.shm = s.shm ∨ r.1.shm = m ∨
      r.1.shm = put8 m s.pktEntry tcpQueueCtlRxPkt)) ∨
    (r.2 = true ∧
      r.1.shm = put8 (put8 m s.pktEntry tcpQueueCtlRxPkt) s.sigEntry tcpQueueCtlRx) := by
  intro r m
  show _ ∨ _
  unfold r rxPuntBytes
  split
  · exact .inl ⟨rfl, .inl rfl⟩
  split
  · exact .inl ⟨rfl, .inl rfl⟩
  split
  · exact .inl ⟨rfl, .inl rfl⟩
  dsimp only
  split
  · exact .inl ⟨rfl, .inr (.inl rfl)⟩
  next shm pktQ hpkt =>
    have h₁ := enqueueAt_some hpkt
    split
    · exact .inl ⟨rfl, .inr (.inr h₁)⟩
    next shm' sigQ hsig =>
      have h₂ := enqueueAt_some hsig
      rw [h₁] at h₂
      exact .inr ⟨rfl, h₂⟩

/-- The data stores outside the two entries, when the header fits. -/
theorem puntFill_out {s : PuntMem} {p : Nat → UInt8} {core : UInt16} {a : Nat}
    (hfit : (rxGetHdrlen p).toNat < pktEntrySize)
    (hp : a < s.pktEntry ∨ s.pktEntry + pktEntrySize ≤ a)
    (hs : a < s.sigEntry ∨ s.sigEntry + ctlEntrySize ≤ a) : puntFill s p core a = s.shm a := by
  unfold pktEntrySize ctlEntrySize at *
  unfold puntFill ctlPktCore
  rw [put8_ne _ _ (by omega), lePut_out (by omega), blit_out (by omega)]

/-- The header bytes of the entry, below the core and as far as they were
copied. -/
theorem puntFill_hdr {s : PuntMem} {p : Nat → UInt8} {core : UInt16} {i : Nat}
    (hw : s.WellFormed) (hi : i < (rxGetHdrlen p).toNat) (hc : i < ctlPktCore) :
    puntFill s p core (s.pktEntry + 1 + i) = p i := by
  have h₁ := hw.pktTail
  have h₂ := hw.sigTail
  have h₃ := hw.apart
  unfold puntFill
  unfold PuntMem.pktEntry PuntMem.sigEntry pktEntrySize ctlEntrySize ctlPktCore at *
  rw [put8_ne _ _ (by omega), lePut_out (by omega), blit_in hi]

/-! ## Faithfulness is a matter of forty-odd bytes -/

/-- `ctl_rx_parse` reads the first 36 bytes, and the bytes up to 50 when the
data offset has room for the timestamp. -/
theorem ctlRxParse_congr {p q : Nat → UInt8} (h : ∀ i, i < 36 → q i = p i)
    (hts : 32 ≤ tcphHdrlen p * 4 → ∀ i, i < 50 → q i = p i) (core : UInt16) :
    ctlRxParse q core = ctlRxParse p core := by
  have h32 : ∀ o, o + 4 ≤ 36 → be32 q o = be32 p o := by
    intro o ho
    exact be32_congr (fun i _ hi => h i (by omega))
  have h16 : ∀ o, o + 2 ≤ 36 → be16 q o = be16 p o := by
    intro o ho
    exact be16_congr (fun i _ hi => h i (by omega))
  have hlen : tcphHdrlen q = tcphHdrlen p := by
    unfold tcphHdrlen
    rw [h16 32 (by omega)]
  unfold ctlRxParse ipDst ipSrc tcpSeqno tcpAckno tcpDest tcpSrc tcpWnd tcphFlags
  rw [h32 16 (by omega), h32 12 (by omega), h32 24 (by omega), h32 28 (by omega),
    h16 22 (by omega), h16 20 (by omega), h16 34 (by omega), h16 32 (by omega), hlen]
  unfold tcpHlen tcpTsOptLen
  by_cases hlt : tcphHdrlen p * 4 < 20 + 12
  · rw [if_pos hlt, if_pos hlt]
  · -- the option bytes are only read here
    have hb := hts (by omega)
    rw [if_neg hlt, if_neg hlt, hb 40 (by omega),
      be32_congr (p := q) (q := p) (fun i _ hi => hb i (by omega)),
      be32_congr (p := q) (q := p) (o := 46) (fun i _ hi => hb i (by omega))]

/-- A header of 36 to 63 bytes is punted as promised. -/
theorem puntOk_of_fits {p : Nat → UInt8} (hip : rxIsIp p = true)
    (hlo : 36 ≤ (rxGetHdrlen p).toNat) (hhi : (rxGetHdrlen p).toNat < pktEntrySize) :
    PuntOk p := by
  intro s pktRoom core hw
  have hl := rxGetHdrlen_toNat p
  have hihl : 5 ≤ iphHl p := by
    unfold rxIsIp at hip
    simp only [Bool.and_eq_true, decide_eq_true_eq] at hip
    exact hip.1.2
  have hstores := rxPuntBytes_shm s p pktRoom core
  dsimp only at hstores
  refine ⟨?_, ?_⟩
  · intro a hne
    apply Classical.byContradiction
    intro hout
    have hp : a < s.pktEntry ∨ s.pktEntry + pktEntrySize ≤ a := by omega
    have hs : a < s.sigEntry ∨ s.sigEntry + ctlEntrySize ≤ a := by omega
    have hm := @puntFill_out s p core a hhi hp hs
    unfold pktEntrySize at hp
    unfold ctlEntrySize at hs
    -- outside the entries every stage of the call left the byte alone
    apply hne
    rcases hstores with ⟨-, h | h | h⟩ | ⟨-, h⟩
    · rw [h]
    · rw [h, hm]
    · rw [h, put8_ne _ _ (by omega), hm]
    · rw [h, put8_ne _ _ (by omega), put8_ne _ _ (by omega), hm]
  · intro hok core'
    rcases hstores with ⟨hno, -⟩ | ⟨-, h⟩
    · rw [hno] at hok
      cases hok
    · have h₁ := hw.pktTail
      have h₂ := hw.sigTail
      have h₃ := hw.apart
      have hbyte : ∀ i, i < ctlPktCore → i < (rxGetHdrlen p).toNat →
          bytesAt (rxPuntBytes s p pktRoom core).1.shm (s.pktEntry + 1) i = p i := by
        intro i hc hi
        unfold bytesAt
        rw [h, put8_ne _ _ ?_, put8_ne _ _ (by omega), puntFill_hdr hw hi hc]
        unfold PuntMem.pktEntry PuntMem.sigEntry pktEntrySize ctlEntrySize ctlPktCore at *
        omega
      unfold ctlPktCore at hbyte
      apply ctlRxParse_congr
      · intro i hi
        exact hbyte i (by omega) (by omega)
      · intro hts i hi
        exact hbyte i (by omega) (by omega)

/-! ## Where it fails -/

/-- Two empty queues in a memory that differs from `p` at every byte the
copy could reach. -/
def puntScratch (p : Nat → UInt8) : PuntMem :=
  { shm := fun a => if a = 0 ∨ a = 192 then 0 else p (a - 1) + 1
    pktBase := 0, pktQ := equeueInit 2 64, sigBase := 192, sigQ := equeueInit 2 32 }

theorem puntScratch_wellFormed (p : Nat → UInt8) : (puntScratch p).WellFormed := by
  exact ⟨rfl, rfl, show 0 + 64 ≤ 64 * 2 by decide, show 0 + 32 ≤ 32 * 2 by decide,
    .inl (show 0 + 64 * 2 ≤ 192 by decide)⟩

theorem uint8_add_one_ne (x : UInt8) : x + 1 ≠ x := by
  intro h
  have := congrArg UInt8.toNat h
  rw [UInt8.toNat_add, UInt8.toNat_one] at this
  have := x.toNat_lt
  omega

/-- A header has at most 120 bytes. -/
theorem rxGetHdrlen_le (p : Nat → UInt8) : (rxGetHdrlen p).toNat ≤ 120 := by
  have hl := rxGetHdrlen_toNat p
  have h₁ : iphHl p < 16 := Nat.mod_lt _ (by decide)
  have h₂ := (be16 p 32).toNat_lt
  unfold tcphHdrlen at hl
  omega

theorem puntFill_scratch (p : Nat → UInt8) :
    puntFill (puntScratch p) p 0 =
      put8 (lePut (blit (puntScratch p).shm 1 p (rxGetHdrlen p).toNat) 53 0 2) 193 1 := rfl

/-- The call on the scratch memory succeeds. -/
theorem rxPuntBytes_scratch (p : Nat → UInt8) :
    (rxPuntBytes (puntScratch p) p fastL3PktRoom 0).2 = true := by
  have hle := rxGetHdrlen_le p
  have hroom : ¬ fastL3PktRoom < (rxGetHdrlen p).toUInt16.toNat := by
    rw [UInt32.toNat_toUInt16]
    unfold fastL3PktRoom
    omega
  have hpkt : puntFill (puntScratch p) p 0 0 = 0 := by
    rw [puntFill_scratch, put8_ne _ _ (by omega), lePut_out (by omega), blit_out (by omega)]
    rfl
  have hsig : put8 (puntFill (puntScratch p) p 0) 0 tcpQueueCtlRxPkt 192 = 0 := by
    rw [put8_ne _ _ (by omega), puntFill_scratch, put8_ne _ _ (by omega), lePut_out (by omega),
      blit_out (by omega)]
    rfl
  unfold rxPuntBytes
  rw [show queueTail (bytesAt (puntScratch p).shm (puntScratch p).pktBase) (puntScratch p).pktQ =
      some 0 from rfl,
    show queueTail (bytesAt (puntScratch p).shm (puntScratch p).sigBase) (puntScratch p).sigQ =
      some 0 from rfl]
  dsimp only
  rw [if_neg hroom, enqueueAt_eq, if_neg (fun h => h hpkt)]
  dsimp only
  rw [enqueueAt_eq, if_neg (fun h => h hsig)]

/-- What it leaves in the memory. -/
theorem rxPuntBytes_scratch_shm (p : Nat → UInt8) :
    (rxPuntBytes (puntScratch p) p fastL3PktRoom 0).1.shm =
      put8 (put8 (puntFill (puntScratch p) p 0) 0 tcpQueueCtlRxPkt) 192 tcpQueueCtlRx := by
  rcases rxPuntBytes_shm (puntScratch p) p fastL3PktRoom 0 with ⟨hno, -⟩ | ⟨-, h⟩
  · rw [rxPuntBytes_scratch] at hno
    cases hno
  · exact h

/-- A header of 64 bytes or more runs over the end of the entry. -/
theorem not_puntOk_of_long {p : Nat → UInt8} (hlong : pktEntrySize ≤ (rxGetHdrlen p).toNat) :
    ¬ PuntOk p := by
  intro hok
  have hconf := (hok (puntScratch p) fastL3PktRoom 0 (puntScratch_wellFormed p)).1
  -- byte 63 of the header is the first byte of the next entry
  have hnew : (rxPuntBytes (puntScratch p) p fastL3PktRoom 0).1.shm 64 = p 63 := by
    rw [rxPuntBytes_scratch_shm, put8_ne _ _ (by omega), put8_ne _ _ (by omega),
      puntFill_scratch, put8_ne _ _ (by omega), lePut_out (by omega)]
    exact @blit_in _ _ 1 _ _ 63 hlong
  have hold : (puntScratch p).shm 64 = p 63 + 1 := rfl
  have hin := hconf 64 (by rw [hnew, hold]; exact (uint8_add_one_ne _).symm)
  rcases hin with ⟨-, h⟩ | ⟨h, -⟩
  · have : 64 < 64 := h
    omega
  · have : 192 ≤ 64 := h
    omega

/-- A header shorter than 36 bytes leaves the window field stale. -/
theorem not_puntOk_of_short {p : Nat → UInt8} (hshort : (rxGetHdrlen p).toNat < 36) :
    ¬ PuntOk p := by
  intro hok
  have hfaith := (hok (puntScratch p) fastL3PktRoom 0 (puntScratch_wellFormed p)).2
    (rxPuntBytes_scratch p) 0
  have hstale : bytesAt (rxPuntBytes (puntScratch p) p fastL3PktRoom 0).1.shm
      ((puntScratch p).pktEntry + 1) 35 = p 35 + 1 := by
    show (rxPuntBytes (puntScratch p) p fastL3PktRoom 0).1.shm 36 = p 35 + 1
    rw [rxPuntBytes_scratch_shm, put8_ne _ _ (by omega), put8_ne _ _ (by omega),
      puntFill_scratch, put8_ne _ _ (by omega), lePut_out (by omega), blit_out (by omega)]
    rfl
  -- the low byte of the window tells the two apart
  have hwnd := congrArg (fun rx => rx.wnd.toNat % 256) hfaith
  simp only [ctlRxParse, tcpWnd, be16, hstale, UInt16.toNat_ofNat'] at hwnd
  have h₁ := (p 35).toNat_lt
  have h₂ := (p 35 + 1).toNat_lt
  have h₃ : p (34 + 1) = p 35 := rfl
  rw [h₃] at hwnd
  exact uint8_add_one_ne (p 35) (UInt8.toNat_inj.mp (by omega))

/-- **Punting is confined and faithful exactly when the header has 36 to 63
bytes**: the two length fields add up to at least 9 and at most 15 words. -/
theorem punt_ok_iff_header_fits {p : Nat → UInt8} (hip : rxIsIp p = true) :
    PuntOk p ↔ 9 ≤ iphHl p + tcphHdrlen p ∧ iphHl p + tcphHdrlen p ≤ 15 := by
  have hl := rxGetHdrlen_toNat p
  have hsize : pktEntrySize = 64 := rfl
  constructor
  · intro hok
    have hlo : ¬ (rxGetHdrlen p).toNat < 36 := fun h => not_puntOk_of_short h hok
    have hhi : ¬ pktEntrySize ≤ (rxGetHdrlen p).toNat := fun h => not_puntOk_of_long h hok
    omega
  · intro h
    exact puntOk_of_fits hip (by omega) (by omega)

/-- A SYN with 40 bytes of options. -/
def longSyn : Nat → UInt8 := fun i =>
  if i = 0 then 0x45 else if i = 9 then ipProtoTcp else if i = 32 then 0xf0
  else if i = 33 then 0x02 else 0

/-- A SYN with a timestamp option only. -/
def tsSyn : Nat → UInt8 := fun i =>
  if i = 0 then 0x45 else if i = 9 then ipProtoTcp else if i = 32 then 0x80
  else if i = 33 then 0x02 else if i = 40 then tcpOptTimestamp else 0

theorem punt_ok_iff_header_fits_ts :
    rxIsIp tsSyn = true ∧ rxIsFlagsCtl tsSyn = true ∧ PuntOk tsSyn :=
  ⟨by decide, by decide, (punt_ok_iff_header_fits (by decide)).mpr (by decide)⟩

/-- The long SYN is handed to `rx_punt_ctl` and spoils the next entry. -/
theorem long_syn_overruns_entry :
    rxIsIp longSyn = true ∧ rxIsFlagsCtl longSyn = true ∧ ¬ PuntOk longSyn :=
  ⟨by decide, by decide, not_puntOk_of_long (by decide)⟩

end Chamelio.Tcp
