import Chamelio.Fast.ControlIf
import Chamelio.Fast.EbpfCtx
import Chamelio.Fast.EbpfHelpers
import Chamelio.Lib.Bytes
import Chamelio.Lib.Noted
import Chamelio.Lib.Ring

/-!
# The shared memory a handler touches

The handlers of a protocol compute addresses in the guest's shared memory out
of numbers they find there: ids of sockets and queues, offsets, lengths and
positions of rings. Here the memory is the bytes it is made of, so that a
guest may have written anything anywhere, and a handler notes the uses it
makes on the way: ranges of bytes and indices of queues, in order, up to the
point where it returns.

Mirroring notes:
- Offsets count from `shm_base`, modulo `2^64` where the source adds an
  offset out of the memory to it. A copy of no bytes touches nothing.
- The maps and queues of a guest are those of the core's own context
  (`maps`, `equeues`, `dqueues`), which the guest cannot write. A queue that
  was never created has no entries.
- Full or empty is what the type bytes of the entries say (`freeSlots`).
- An element or entry is noted whole where some field of it is used.
- A payload that is copied in over an element or an entry changes what the
  handler reads there afterwards; `Apart` keeps it away from all of them.
-/

namespace Chamelio.Fast

open Chamelio.Lib Chamelio.Util Chamelio.Control

/-- One use of the shared memory, or of a queue index taken from it. -/
inductive ShmUse
  /-- Bytes that are read, and the entry of a queue a message goes into. -/
  | bytes (off len : Nat)
  /-- An element of map `i` that is written. -/
  | elem (i off len : Nat)
  /-- Bytes of a packet written to a ring. -/
  | payload (off len : Nat)
  | queue (qid : Nat)
  deriving DecidableEq, Repr

/-- The bytes lie in the region of `shmLen` bytes; the index is one of
`MAX_PROTO_QUEUES`. -/
def ShmUse.Inside (shmLen : Nat) : ShmUse → Prop
  | .bytes off len => len = 0 ∨ off + len ≤ shmLen
  | .elem _ off len => off + len ≤ shmLen
  | .payload off len => len = 0 ∨ off + len ≤ shmLen
  | .queue qid => qid < maxProtoQueues

/-- The two copies of the fast path. -/
inductive FastVersion
  | hand | ebpf
  deriving DecidableEq, Repr

/-! ## Queues -/

/-- `struct equeue` or `struct dqueue`: where the entries are, and the byte
position of the tail or the head. -/
structure ShmQueue where
  entries : Nat
  pos : Nat
  nelems : Nat
  elsize : Nat

namespace ShmQueue

/-- Address of the entry at the tail or the head. -/
def entry (q : ShmQueue) : Nat := q.entries + q.pos

/-- The queue after `queue_enqueue` or `queue_dequeue`. -/
def advance (q : ShmQueue) : ShmQueue :=
  { q with pos := if q.pos + q.elsize ≥ q.elsize * q.nelems then 0 else q.pos + q.elsize }

/-- The queue after `n` of these. -/
def after (q : ShmQueue) : Nat → ShmQueue
  | 0 => q
  | n + 1 => (q.after n).advance

/-- How many entries of the next `n` take a message before one is found that
is taken. -/
def freeSlots (m : Nat → UInt8) (q : ShmQueue) : Nat → Nat
  | 0 => 0
  | n + 1 => if m q.entry = 0 then freeSlots m q.advance n + 1 else 0

/-- A queue that was created for entries of `size` bytes at least: its cursor
is at one of its entries, and they all lie in the region. -/
structure Created (q : ShmQueue) (shmLen size : Nat) : Prop where
  cursor : ∃ i < q.nelems, q.pos = i * q.elsize
  fits : ∀ i < q.nelems, q.entries + i * q.elsize + size ≤ shmLen

theorem Created.advance {q : ShmQueue} {shmLen size : Nat} (h : q.Created shmLen size) :
    q.advance.Created shmLen size := by
  obtain ⟨i, hi, hpos⟩ := h.cursor
  refine ⟨?_, h.fits⟩
  unfold ShmQueue.advance
  dsimp only
  split
  · exact ⟨0, by omega, (Nat.zero_mul _).symm⟩
  · next hlt =>
    refine ⟨i + 1, ?_, by rw [hpos, Nat.succ_mul]⟩
    rw [hpos, ← Nat.succ_mul, Nat.mul_comm q.elsize] at hlt
    exact Nat.lt_of_mul_lt_mul_right (Nat.not_le.mp hlt)

theorem Created.after {q : ShmQueue} {shmLen size : Nat} (h : q.Created shmLen size) (n : Nat) :
    (q.after n).Created shmLen size := by
  induction n with
  | zero => exact h
  | succ n ih => exact ih.advance

/-- What is used of the entry at the cursor lies in the region. -/
theorem Created.entry {q : ShmQueue} {shmLen size : Nat} (h : q.Created shmLen size) {o n : Nat}
    (hn : o + n ≤ size) : (ShmUse.bytes (q.entry + o) n).Inside shmLen := by
  obtain ⟨i, hi, hpos⟩ := h.cursor
  have hfit := h.fits i hi
  unfold ShmQueue.entry
  rw [hpos]
  exact .inr (by omega)

end ShmQueue

/-! ## What a handler is given -/

/-- What a handler is given: packet, core, shared memory, and the core's own
table of maps and queues. -/
structure ShmCtx where
  pkt : Nat → UInt8
  pktRoom : Nat
  shm : Nat → UInt8
  shmLen : Nat
  core : UInt16
  ncores : UInt16
  maps : Nat → ChamMap
  equeues : Nat → ShmQueue
  dqueues : Nat → ShmQueue
  qeOff : Nat
  sched : Sched
  clk : Clock

/-- The context of the handlers, with maps, queue entries and the entry to be
handled as the protocol reads them out of the bytes. -/
def ShmCtx.toCtx {M E : Type} (c : ShmCtx) (maps : M) (qe : E) (head : Nat → Option E) :
    EbpfCtx M E where
  pkt := c.pkt
  pktRoom := c.pktRoom
  shm := c.shm
  shmLen := c.shmLen
  sched := c.sched
  qe := qe
  qeOff := c.qeOff
  ncores := c.ncores
  core := c.core
  dqueues i :=
    let q := c.dqueues i
    { q := { items := (head q.entry).toList, nelems := q.nelems }
      off := q.entries, elsize := q.elsize, head := q.pos }
  equeues i := { items := [], nelems := ShmQueue.freeSlots c.shm (c.equeues i) (c.equeues i).nelems }
  maps := maps
  clk := c.clk

/-- Number of addresses. -/
def addrSpace : Nat := 18446744073709551616

def u16At (m : Nat → UInt8) (o : Nat) : UInt16 := UInt16.ofNat (leGet m o 2)
def u32At (m : Nat → UInt8) (o : Nat) : UInt32 := UInt32.ofNat (leGet m o 4)
def u64At (m : Nat → UInt8) (o : Nat) : UInt64 := UInt64.ofNat (leGet m o 8)

/-- The byte belongs to an element of a map or to an entry of a queue. -/
def ShmCtx.InTable (c : ShmCtx) (a : Nat) : Prop :=
  (∃ i, (c.maps i).off ≤ a ∧ a < (c.maps i).off + (c.maps i).nelems * (c.maps i).elsize) ∨
    ∃ i, (c.equeues i).entries ≤ a ∧
      a < (c.equeues i).entries + (c.equeues i).nelems * (c.equeues i).elsize

/-- None of these bytes does. -/
def ShmCtx.Apart (c : ShmCtx) (off len : Nat) : Prop :=
  ∀ a, off ≤ a → a < off + len → ¬ c.InTable a

/-- The use leaves what the handler reads afterwards as it is: an element that
is written lies in its map, and a payload touches no element and no entry. -/
def ShmUse.Keeps (c : ShmCtx) : ShmUse → Prop
  | .elem i off len => off + len ≤ (c.maps i).off + (c.maps i).nelems * (c.maps i).elsize
  | .payload off len => c.Apart off len
  | _ => True

/-- The use stays inside and keeps what is read afterwards. -/
def ShmUse.Good (c : ShmCtx) (u : ShmUse) : Prop := u.Inside c.shmLen ∧ u.Keeps c

theorem ShmUse.good_bytes {c : ShmCtx} {off len : Nat} (h : (ShmUse.bytes off len).Inside c.shmLen) :
    (ShmUse.bytes off len).Good c := ⟨h, trivial⟩

/-! ## Queue entries -/

/-- Address of the entry at the tail of queue `qid`, behind the messages the
handler put there. -/
def tailEntry {E : Type} (c : ShmCtx) (queues : Nat → Fifo E) (qid : Nat) : Nat :=
  ((c.equeues qid).after (queues qid).items.length).entry

/-- `queue_tail` of queue `qid` and the use of the entry it returns: the
index, and the type byte or, where it has room, all its `size` bytes. -/
def noteTail {E : Type} (c : ShmCtx) (queues : Nat → Fifo E) (qid size : Nat) :
    Noted ShmUse Unit :=
  note [.queue qid, .bytes (tailEntry c queues qid) (if (queues qid).hasRoom then size else 1)]

/-- The queue is one of the guest's, with entries of `size` bytes. -/
structure QueueIn (c : ShmCtx) (q : ShmQueue) (qid size : Nat) : Prop where
  qid : qid < maxProtoQueues
  created : q.Created c.shmLen size

/-- What is used of the entry at the tail lies in the region. -/
theorem QueueIn.tail {E : Type} {c : ShmCtx} {queues : Nat → Fifo E} {qid size : Nat}
    (h : QueueIn c (c.equeues qid) qid size) {o n : Nat} (hn : o + n ≤ size) :
    (ShmUse.bytes (tailEntry c queues qid + o) n).Good c :=
  ShmUse.good_bytes ((h.created.after _).entry hn)

theorem noteTail_good {E : Type} {c : ShmCtx} {queues : Nat → Fifo E} {qid size : Nat}
    (h : QueueIn c (c.equeues qid) qid size) (hs : 0 < size) :
    (noteTail c queues qid size).All (ShmUse.Good c) := by
  intro u hu
  rcases List.mem_cons.mp hu with rfl | hu
  · exact ⟨h.qid, trivial⟩
  · rw [List.mem_singleton.mp hu]
    refine h.tail (o := 0) ?_
    split <;> omega

/-! ## Rings -/

/-- The copy of `n` bytes to or from position `pos` of a ring at `off`, in
one part or in two; `rest` is the length of the second. -/
def ringUses (use : Nat → Nat → ShmUse) (off : UInt64) (len pos n : UInt32) (rest : Nat) :
    List ShmUse :=
  let start := (off.toNat + pos.toNat) % addrSpace
  if pos + n ≤ len then [use start n.toNat]
  else [use start (len - pos).toNat, use off.toNat rest]

/-- **A ring that lies in the region**, with its position and its count not
past its length, which is short enough for sums of two such numbers. -/
structure RingIn (shmLen : Nat) (off : UInt64) (len pos count : UInt32) : Prop where
  fits : off.toNat + len.toNat ≤ shmLen
  short : len.toNat < 2147483648
  pos : pos.toNat ≤ len.toNat
  count : count.toNat ≤ len.toNat

/-- The position behind `count` bytes is not past the length either. -/
theorem RingIn.wrapAdd_le {shmLen : Nat} {off : UInt64} {len pos count : UInt32}
    (h : RingIn shmLen off len pos count) : (wrapAdd pos count len).toNat ≤ len.toNat := by
  obtain ⟨-, hs, hp, hc⟩ := h
  unfold wrapAdd
  have hsum : (pos + count).toNat = pos.toNat + count.toNat := by
    rw [UInt32.toNat_add]
    omega
  split
  · next hge =>
    have hle : len ≤ pos + count := hge
    rw [UInt32.toNat_sub_of_le _ _ hle, hsum]
    omega
  · next hlt =>
    have := UInt32.lt_iff_toNat_lt.mp (UInt32.not_le.mp hlt)
    omega

theorem toNat_add_short {a b : UInt32} {len : Nat} (hs : len < 2147483648) (ha : a.toNat ≤ len)
    (hb : b.toNat ≤ len) : (a + b).toNat = a.toNat + b.toNat := by
  rw [UInt32.toNat_add]
  omega

/-- **A copy of no more than the ring holds stays in the ring.** -/
theorem ringUses_all {P : ShmUse → Prop} {use : Nat → Nat → ShmUse} {off : UInt64}
    {len pos n : UInt32} {rest : Nat} (hlen : off.toNat + len.toNat < addrSpace)
    (hs : len.toNat < 2147483648) (hpos : pos.toNat ≤ len.toNat) (hn : n.toNat ≤ len.toNat)
    (hrest : ¬ pos + n ≤ len → rest ≤ len.toNat)
    (hP : ∀ o k, off.toNat ≤ o → o + k ≤ off.toNat + len.toNat → P (use o k)) :
    ∀ u ∈ ringUses use off len pos n rest, P u := by
  have hsum := toNat_add_short hs hpos hn
  have hstart : (off.toNat + pos.toNat) % addrSpace = off.toNat + pos.toNat :=
    Nat.mod_eq_of_lt (by omega)
  unfold ringUses
  rw [hstart]
  intro u hu
  dsimp only at hu
  split at hu
  · next hle =>
    have hle := UInt32.le_iff_toNat_le.mp hle
    rw [List.mem_singleton.mp hu]
    exact hP _ _ (Nat.le_add_right _ _) (by omega)
  · next hgt =>
    have hpart : (len - pos).toNat = len.toNat - pos.toNat :=
      UInt32.toNat_sub_of_le _ _ (UInt32.le_iff_toNat_le.mpr hpos)
    rcases List.mem_cons.mp hu with rfl | hu
    · exact hP _ _ (Nat.le_add_right _ _) (by omega)
    · rw [List.mem_singleton.mp hu]
      have := hrest hgt
      exact hP _ _ (Nat.le_refl _) (by omega)

/-- What is left of `n` bytes behind the end of the ring. -/
theorem ring_rest_le {len pos n : UInt32} (hs : len.toNat < 2147483648)
    (hpos : pos.toNat ≤ len.toNat) (hn : n.toNat ≤ len.toNat) (hgt : ¬ pos + n ≤ len) :
    (n - (len - pos)).toNat ≤ len.toNat ∧
      (n.toUInt64 - (len - pos).toUInt64).toNat ≤ len.toNat := by
  have hsum := toNat_add_short hs hpos hn
  have hpart : (len - pos).toNat = len.toNat - pos.toNat :=
    UInt32.toNat_sub_of_le _ _ (UInt32.le_iff_toNat_le.mpr hpos)
  have hgt : ¬ (pos + n).toNat ≤ len.toNat := fun h => hgt (UInt32.le_iff_toNat_le.mpr h)
  have hle : len - pos ≤ n := UInt32.le_iff_toNat_le.mpr (by omega)
  constructor
  · rw [UInt32.toNat_sub_of_le _ _ hle]
    omega
  · rw [UInt64.toNat_sub_of_le _ _ (by
      rw [UInt64.le_iff_toNat_le, UInt32.toNat_toUInt64, UInt32.toNat_toUInt64]
      exact UInt32.le_iff_toNat_le.mp hle), UInt32.toNat_toUInt64, UInt32.toNat_toUInt64]
    omega

/-- A ring a payload can be written to: behind what it holds, and apart from
maps and queues. -/
structure PayloadRingIn (c : ShmCtx) (off : UInt64) (len head avail : UInt32) : Prop
    extends RingIn c.shmLen off len head avail where
  apart : c.Apart off.toNat len.toNat

/-- Bytes written to a ring, behind what it holds. -/
theorem PayloadRingIn.good {c : ShmCtx} {off : UInt64} {len head avail n : UInt32}
    (h : PayloadRingIn c off len head avail) (hlen : c.shmLen < addrSpace)
    (hn : n.toNat ≤ len.toNat) :
    ∀ u ∈ ringUses .payload off len (wrapAdd head avail len) n
        (n - (len - wrapAdd head avail len)).toNat, u.Good c := by
  have htail := h.wrapAdd_le
  have hfits := h.fits
  refine ringUses_all (Nat.lt_of_le_of_lt hfits hlen) h.short htail hn
    (fun hgt => (ring_rest_le h.short htail hn hgt).1) fun o k hlo hhi => ⟨.inr (by omega), ?_⟩
  intro a ha hb
  exact h.apart a (by omega) (by omega)

/-- Bytes read from a ring. -/
theorem ringRead_good {c : ShmCtx} {off : UInt64} {len pos n : UInt32} {rest : Nat}
    (hlen : c.shmLen < addrSpace) (hfits : off.toNat + len.toNat ≤ c.shmLen)
    (hs : len.toNat < 2147483648) (hpos : pos.toNat ≤ len.toNat) (hn : n.toNat ≤ len.toNat)
    (hrest : ¬ pos + n ≤ len → rest ≤ len.toNat) :
    ∀ u ∈ ringUses .bytes off len pos n rest, u.Good c :=
  ringUses_all (Nat.lt_of_le_of_lt hfits hlen) hs hpos hn hrest
    fun _ _ _ hhi => ShmUse.good_bytes (.inr (Nat.le_trans hhi hfits))

/-! ## Maps -/

/-- The library created the map with `n` elements of `size` bytes. -/
structure MapIn (c : ShmCtx) (i size n : Nat) : Prop where
  nelems : (c.maps i).nelems = n
  elsize : (c.maps i).elsize = size
  fits : (c.maps i).off + n * size ≤ c.shmLen

/-- Element `id` of map `i`, an element of `size` bytes. -/
def elemOff (c : ShmCtx) (i id size : Nat) : Nat := (c.maps i).off + id * size

theorem elemOff_le {c : ShmCtx} {i size n id : Nat} (hid : id < n) :
    elemOff c i id size + size ≤ (c.maps i).off + n * size := by
  have hm : id * size + size ≤ n * size := by
    rw [← Nat.succ_mul]
    exact Nat.mul_le_mul_right size hid
  unfold elemOff
  omega

/-- An element whose id is below their number may be read and written. -/
theorem MapIn.elem {c : ShmCtx} {i size n id : Nat} (h : MapIn c i size n) (hid : id < n) :
    (ShmUse.elem i (elemOff c i id size) size).Good c := by
  have hle : elemOff c i id size + size ≤ (c.maps i).off + n * size := elemOff_le hid
  refine ⟨Nat.le_trans hle h.fits, ?_⟩
  show elemOff c i id size + size ≤ (c.maps i).off + (c.maps i).nelems * (c.maps i).elsize
  rw [h.nelems, h.elsize]
  exact hle

theorem MapIn.bytes {c : ShmCtx} {i size n id : Nat} (h : MapIn c i size n) (hid : id < n) :
    (ShmUse.bytes (elemOff c i id size) size).Good c :=
  ShmUse.good_bytes (.inr (h.elem hid).1)

end Chamelio.Fast
