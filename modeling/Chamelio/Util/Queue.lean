import Chamelio.Lib.Slots
import Chamelio.Lib.Run
import Chamelio.Lib.Fifo

/-!
# The shared-memory queue (`lib/utils/queue`)

A queue is a region of `nelems` entries of `elsize` bytes. The first byte of
an entry is its type, and zero means empty: there is no shared count. The
producer owns a byte offset `tail`, the consumer a byte offset `head`; both
write the type bytes.

`queue_tail`, `queue_enqueue`, `queue_head` and `queue_dequeue` each load
the type byte at the caller's offset, and the two that move an entry store
it afterwards. Producer and consumer run concurrently, so a step of the
system below is one such load or store, or the producer filling or the
consumer reading the bytes of an entry.

Mirroring notes: offsets are `__u32`, `elsize` is a `size_t`, so a new
offset is a 64-bit sum cut to 32 bits and the end of the region a 64-bit
product. `entries` is offset zero of the region. The offset is stored before
the type byte, behind a barrier.
-/

namespace Chamelio.Util

open Chamelio.Lib

/-- `struct equeue`. -/
structure Equeue where
  tail : Nat
  nelems : Nat
  elsize : Nat
  deriving DecidableEq, Repr

/-- `struct dqueue`. -/
structure Dqueue where
  head : Nat
  nelems : Nat
  elsize : Nat
  deriving DecidableEq, Repr

/-- `equeue_init`. -/
def equeueInit (nelems elsize : Nat) : Equeue := { tail := 0, nelems, elsize }

/-- `dqueue_init`. -/
def dqueueInit (nelems elsize : Nat) : Dqueue := { head := 0, nelems, elsize }

/-- The offset after `pos`, back to the start at the end of the region. -/
def queueNext (pos nelems elsize : Nat) : Nat :=
  let next := (pos + elsize) % 18446744073709551616 % 4294967296
  if elsize * nelems % 18446744073709551616 ≤ next then 0 else next

/-- `queue_tail`: the offset of the tail entry, if its type is empty. -/
def queueTail (m : Nat → UInt8) (q : Equeue) : Option Nat :=
  if m q.tail ≠ 0 then none else some q.tail

/-- `queue_head`: the offset of the head entry, if its type is not empty. -/
def queueHead (m : Nat → UInt8) (q : Dqueue) : Option Nat :=
  if m q.head = 0 then none else some q.head

def Equeue.advance (q : Equeue) : Equeue := { q with tail := queueNext q.tail q.nelems q.elsize }

def Dqueue.advance (q : Dqueue) : Dqueue := { q with head := queueNext q.head q.nelems q.elsize }

/-- Store a type byte. -/
def putType (m : Nat → UInt8) (a : Nat) (t : UInt8) : Nat → UInt8 :=
  fun i => if i = a then t else m i

/-- `queue_enqueue`, run without interruption. -/
def queueEnqueue (m : Nat → UInt8) (q : Equeue) (t : UInt8) : Option ((Nat → UInt8) × Equeue) :=
  if m q.tail ≠ 0 then none else some (putType m q.tail t, q.advance)

/-- `queue_dequeue`, run without interruption. -/
def queueDequeue (m : Nat → UInt8) (q : Dqueue) : Option ((Nat → UInt8) × Dqueue) :=
  if m q.head = 0 then none else some (putType m q.head 0, q.advance)

/-! ## Producer and consumer -/

/-- An entry: its type and its other bytes. -/
abbrev Entry := UInt8 × List UInt8

/-- The bytes of an entry behind the type byte. -/
def entryData (m : Nat → UInt8) (elsize a : Nat) : List UInt8 :=
  (List.range (elsize - 1)).map fun i => m (a + 1 + i)

/-- Fill the bytes of an entry behind the type byte. -/
def fillEntry (m : Nat → UInt8) (elsize a : Nat) (data : Nat → UInt8) : Nat → UInt8 :=
  blit m (a + 1) data (elsize - 1)

/-- Where the producer is. -/
inductive ProdPc where
  /-- Between two entries. -/
  | idle
  /-- `queue_tail` returned an entry. -/
  | got
  /-- The entry is filled with these bytes. -/
  | filled (data : List UInt8)
  /-- Inside `queue_enqueue`, in front of the store of the type byte. -/
  | storing (a : Nat) (t : UInt8) (data : List UInt8)

/-- Where the consumer is. -/
inductive ConsPc where
  | idle
  /-- `queue_head` returned an entry. -/
  | got
  /-- The entry was read. -/
  | read (e : Entry)
  /-- Inside `queue_dequeue`, in front of the store of the type byte. -/
  | clearing (a : Nat) (e : Entry)

/-- The region and both sides, with the entries produced and consumed. -/
structure Spsc where
  mem : Nat → UInt8
  eq : Equeue
  dq : Dqueue
  prod : ProdPc
  cons : ConsPc
  produced : List Entry
  consumed : List Entry

/-- A queue over a zeroed region. -/
def Spsc.init (nelems elsize : Nat) : Spsc :=
  { mem := fun _ => 0, eq := equeueInit nelems elsize, dq := dqueueInit nelems elsize
    prod := .idle, cons := .idle, produced := [], consumed := [] }

/-- The producer is inside `queue_enqueue`. -/
def ProdPc.inCall : ProdPc → Bool
  | .storing _ _ _ => true
  | .idle | .got | .filled _ => false

/-- The consumer is inside `queue_dequeue`. -/
def ConsPc.inCall : ConsPc → Bool
  | .clearing _ _ => true
  | .idle | .got | .read _ => false

/-- After `queue_tail` returned the slot. -/
def ProdPc.look : ProdPc → ProdPc
  | .idle | .got => .got
  | .filled data => .filled data
  | .storing a t data => .storing a t data

/-- After `queue_head` returned the slot. -/
def ConsPc.look : ConsPc → ConsPc
  | .idle | .got => .got
  | .read e => .read e
  | .clearing a e => .clearing a e

/-- The bytes the producer's slot is enqueued with: what it filled in, or what
lies there when `queue_enqueue` is called on its own. -/
def Spsc.ownData (s : Spsc) : List UInt8 :=
  match s.prod with
  | .filled data => data
  | .idle | .got | .storing _ _ _ => entryData s.mem s.eq.elsize s.eq.tail

/-- The entry the consumer dequeues: what it read, or what lies there when
`queue_dequeue` is called on its own. -/
def Spsc.heldEntry (s : Spsc) : Entry :=
  match s.cons with
  | .read e => e
  | .idle | .got | .clearing _ _ => (s.mem s.dq.head, entryData s.mem s.dq.elsize s.dq.head)

/-- The atomic steps: each loads or stores one type byte, or fills or reads
an entry. A side that is not where a step starts does nothing. -/
inductive SpscAct where
  | callTail
  | fill (data : Nat → UInt8)
  | callEnqueue (t : UInt8)
  | storeType
  | callHead
  | readEntry
  | callDequeue
  | clearType

/-- What a call reports after its load of the type byte. -/
inductive Report where
  | none
  | full (b : Bool)
  | empty (b : Bool)
  deriving DecidableEq, Repr

/-- One atomic step. A side may make either of its calls whenever it is outside
of both: `queue_enqueue` and `queue_dequeue` with or without a look at the slot
before. Their first half is the load of the type byte and the new offset, the
second the store. -/
def Spsc.step (s : Spsc) : SpscAct → Spsc × Report
  | .callTail =>
    if s.prod.inCall = true then (s, .none)
    else
      match queueTail s.mem s.eq with
      | none => (s, .full true)
      | some _ => ({ s with prod := s.prod.look }, .full false)
  | .fill data =>
    match s.prod with
    | .got | .filled _ =>
      ({ s with
          mem := fillEntry s.mem s.eq.elsize s.eq.tail data
          prod := .filled ((List.range (s.eq.elsize - 1)).map data) }, .none)
    | .idle | .storing _ _ _ => (s, .none)
  | .callEnqueue t =>
    if t = 0 ∨ s.prod.inCall = true then (s, .none)
    else
      match queueEnqueue s.mem s.eq t with
      | none => ({ s with prod := .idle }, .full true)
      | some (_, eq) => ({ s with eq, prod := .storing s.eq.tail t s.ownData }, .full false)
  | .storeType =>
    match s.prod with
    | .storing a t data =>
      ({ s with
          mem := putType s.mem a t
          prod := .idle
          produced := s.produced ++ [(t, data)] }, .none)
    | .idle | .got | .filled _ => (s, .none)
  | .callHead =>
    if s.cons.inCall = true then (s, .none)
    else
      match queueHead s.mem s.dq with
      | none => (s, .empty true)
      | some _ => ({ s with cons := s.cons.look }, .empty false)
  | .readEntry =>
    match s.cons with
    | .got => ({ s with cons := .read s.heldEntry }, .none)
    | .idle | .read _ | .clearing _ _ => (s, .none)
  | .callDequeue =>
    if s.cons.inCall = true then (s, .none)
    else
      match queueDequeue s.mem s.dq with
      | none => ({ s with cons := .idle }, .empty true)
      | some (_, dq) => ({ s with dq, cons := .clearing s.dq.head s.heldEntry }, .empty false)
  | .clearType =>
    match s.cons with
    | .clearing a e =>
      ({ s with
          mem := putType s.mem a 0
          cons := .idle
          consumed := s.consumed ++ [e] }, .none)
    | .idle | .got | .read _ => (s, .none)

/-- Outside of a call, `queue_tail` and `queue_head` are the function. -/
theorem Spsc.step_callTail {s : Spsc} (hp : s.prod.inCall = false) :
    s.step .callTail = match queueTail s.mem s.eq with
      | none => (s, .full true)
      | some _ => ({ s with prod := s.prod.look }, .full false) := by
  refine if_neg ?_
  rw [hp]
  exact Bool.false_ne_true

theorem Spsc.step_callHead {s : Spsc} (hc : s.cons.inCall = false) :
    s.step .callHead = match queueHead s.mem s.dq with
      | none => (s, .empty true)
      | some _ => ({ s with cons := s.cons.look }, .empty false) := by
  refine if_neg ?_
  rw [hc]
  exact Bool.false_ne_true

/-- Outside of the call, `queue_enqueue` gets as far as its load of the type byte
lets it. -/
theorem Spsc.step_callEnqueue {s : Spsc} (hp : s.prod.inCall = false) {t : UInt8} (ht : t ≠ 0) :
    s.step (.callEnqueue t) = match queueEnqueue s.mem s.eq t with
      | none => ({ s with prod := .idle }, .full true)
      | some (_, eq) => ({ s with eq, prod := .storing s.eq.tail t s.ownData }, .full false) := by
  refine if_neg ?_
  rw [hp]
  simp [ht]

/-- The same for `queue_dequeue`. -/
theorem Spsc.step_callDequeue {s : Spsc} (hc : s.cons.inCall = false) :
    s.step .callDequeue = match queueDequeue s.mem s.dq with
      | none => ({ s with cons := .idle }, .empty true)
      | some (_, dq) => ({ s with dq, cons := .clearing s.dq.head s.heldEntry }, .empty false) := by
  refine if_neg ?_
  rw [hc]
  exact Bool.false_ne_true

/-- Entries produced and not yet consumed. -/
def Spsc.outstanding (s : Spsc) : Nat := s.produced.length - s.consumed.length

/-! ## Stores and the slots they miss -/

section slots

variable {m : Nat → UInt8} {e n k k' : Nat}

theorem putType_same (a : Nat) (t : UInt8) : putType m a t a = t := if_pos rfl

/-- A type store leaves the type of a near slot alone. -/
theorem putType_type (he : 0 < e) (h : k < k') (hn : k' < k + n) (t : UInt8) :
    putType m (slotAt e n k) t (slotAt e n k') = m (slotAt e n k') ∧
      putType m (slotAt e n k') t (slotAt e n k) = m (slotAt e n k) := by
  have hne : slotAt e n k ≠ slotAt e n k' := slotAt_ne h hn he he
  exact ⟨if_neg (Ne.symm hne), if_neg hne⟩

/-- A type store leaves the data of every slot alone. -/
theorem putType_data (he : 0 < e) (t : UInt8) :
    entryData (putType m (slotAt e n k) t) e (slotAt e n k') =
      entryData m e (slotAt e n k') := by
  unfold entryData
  apply List.map_congr_left
  intro i hi
  have hi' := List.mem_range.mp hi
  unfold putType
  rw [if_neg]
  by_cases hkk : k % n = k' % n
  · unfold slotAt
    rw [hkk]
    omega
  · have := @slot_bytes_ne e (k % n) (k' % n) 0 (1 + i) hkk he (by omega)
    unfold slotAt
    omega

/-- Filling an entry leaves the types of all slots alone. -/
theorem fillEntry_type (he : 0 < e) (data : Nat → UInt8) :
    fillEntry m e (slotAt e n k) data (slotAt e n k') = m (slotAt e n k') := by
  unfold fillEntry blit
  rw [if_neg]
  by_cases hkk : k % n = k' % n
  · unfold slotAt
    rw [hkk]
    omega
  · intro hin
    have := @slot_bytes_ne e (k % n) (k' % n) (slotAt e n k' - slotAt e n k) 0 hkk (by omega) he
    unfold slotAt at *
    omega

/-- Filling an entry leaves the data of a near slot alone. -/
theorem fillEntry_data (h : k < k') (hn : k' < k + n) (data : Nat → UInt8) :
    entryData (fillEntry m e (slotAt e n k') data) e (slotAt e n k) =
      entryData m e (slotAt e n k) := by
  unfold entryData
  apply List.map_congr_left
  intro i hi
  have hi' := List.mem_range.mp hi
  unfold fillEntry blit
  rw [if_neg]
  intro hin
  have := @slotAt_ne e n k k' (1 + i) (slotAt e n k + 1 + i - slotAt e n k') h hn (by omega)
    (by omega)
  omega

theorem fillEntry_same (a : Nat) (data : Nat → UInt8) :
    entryData (fillEntry m e a data) e a = (List.range (e - 1)).map data := by
  unfold entryData
  apply List.map_congr_left
  intro i hi
  exact blit_in (List.mem_range.mp hi)

end slots

/-- The next offset of the code is the next slot of the ring. -/
theorem queueNext_slotAt {e n k : Nat} (he : 0 < e) (hn : 0 < n) (hlt : e * n < 4294967296) :
    queueNext (slotAt e n k) n e = slotAt e n (k + 1) := by
  have hfit := @slotAt_fits e n k hn
  unfold queueNext
  dsimp only
  rw [Nat.mod_eq_of_lt (show e * n < 18446744073709551616 by omega),
    Nat.mod_eq_of_lt (show slotAt e n k + e < 18446744073709551616 by omega),
    Nat.mod_eq_of_lt (show slotAt e n k + e < 4294967296 by omega)]
  exact slotAt_succ he hn

/-! ## The invariant -/

/-- What the producer's position says: a free slot is its own, with the data
it has filled in, until it stores the type. -/
def ProdAt (e n : Nat) (s : Spsc) : Prop :=
  match s.prod with
  | .idle => s.eq.tail = slotAt e n s.produced.length
  | .got => s.eq.tail = slotAt e n s.produced.length ∧
      s.produced.length < s.consumed.length + n
  | .filled data => s.eq.tail = slotAt e n s.produced.length ∧
      s.produced.length < s.consumed.length + n ∧
      entryData s.mem e (slotAt e n s.produced.length) = data
  | .storing a t data => s.eq.tail = slotAt e n (s.produced.length + 1) ∧
      s.produced.length < s.consumed.length + n ∧
      entryData s.mem e (slotAt e n s.produced.length) = data ∧
      a = slotAt e n s.produced.length ∧ t ≠ 0

/-- What the consumer's position says: the oldest entry is its own until it
clears the type. -/
def ConsAt (e n : Nat) (s : Spsc) : Prop :=
  match s.cons with
  | .idle => s.dq.head = slotAt e n s.consumed.length
  | .got => s.dq.head = slotAt e n s.consumed.length ∧ s.consumed.length < s.produced.length
  | .read en => s.dq.head = slotAt e n s.consumed.length ∧
      s.produced[s.consumed.length]? = some en
  | .clearing a en => s.dq.head = slotAt e n (s.consumed.length + 1) ∧
      s.produced[s.consumed.length]? = some en ∧ a = slotAt e n s.consumed.length

/-- The slots of the outstanding entries hold them, all others are empty. -/
structure SpscInv (e n : Nat) (s : Spsc) : Prop where
  size : s.eq.nelems = n ∧ s.eq.elsize = e ∧ s.dq.nelems = n ∧ s.dq.elsize = e
  fifo : s.consumed = s.produced.take s.consumed.length
  room : s.produced.length ≤ s.consumed.length + n
  holds : ∀ k en, s.consumed.length ≤ k → s.produced[k]? = some en →
    s.mem (slotAt e n k) = en.1 ∧ entryData s.mem e (slotAt e n k) = en.2 ∧ en.1 ≠ 0
  free : ∀ k, s.produced.length ≤ k → k < s.consumed.length + n → s.mem (slotAt e n k) = 0
  prod : ProdAt e n s
  cons : ConsAt e n s

theorem SpscInv.le {e n : Nat} {s : Spsc} (h : SpscInv e n s) :
    s.consumed.length ≤ s.produced.length := by
  have := congrArg List.length h.fifo
  rw [List.length_take] at this
  omega

/-- The type at the producer's slot is set exactly when the queue is full. -/
theorem SpscInv.tail_full_iff {e n : Nat} {s : Spsc} (h : SpscInv e n s) (hn : 0 < n) :
    s.mem (slotAt e n s.produced.length) ≠ 0 ↔ s.outstanding = n := by
  have hle := h.le
  have hroom := h.room
  unfold Spsc.outstanding
  constructor
  · intro hne
    apply Classical.byContradiction
    intro hout
    exact hne (h.free _ (Nat.le_refl _) (by omega))
  · intro hout
    -- n entries are outstanding, so the slot is the oldest entry's
    have hslot : slotAt e n s.produced.length = slotAt e n s.consumed.length := by
      unfold slotAt
      rw [show s.produced.length = s.consumed.length + n by omega, Nat.add_mod_right]
    have hget := List.getElem?_eq_getElem (show s.consumed.length < s.produced.length by omega)
    obtain ⟨htype, -, hne⟩ := h.holds _ _ (Nat.le_refl _) hget
    rw [hslot, htype]
    exact hne

/-- The type at the consumer's slot is empty exactly when the queue is. -/
theorem SpscInv.head_empty_iff {e n : Nat} {s : Spsc} (h : SpscInv e n s) (hn : 0 < n) :
    s.mem (slotAt e n s.consumed.length) = 0 ↔ s.outstanding = 0 := by
  have hle := h.le
  unfold Spsc.outstanding
  constructor
  · intro hz
    apply Classical.byContradiction
    intro hout
    have hget := List.getElem?_eq_getElem (show s.consumed.length < s.produced.length by omega)
    obtain ⟨htype, -, hne⟩ := h.holds _ _ (Nat.le_refl _) hget
    exact hne (htype.symm.trans hz)
  · intro hout
    exact h.free _ (by omega) (by omega)

theorem Spsc.init_inv (e n : Nat) : SpscInv e n (Spsc.init n e) := by
  refine ⟨⟨rfl, rfl, rfl, rfl⟩, rfl, Nat.zero_le _, fun k en _ hk => ?_, fun k _ _ => rfl, ?_, ?_⟩
  · cases hk
  · exact (slotAt_zero e n).symm
  · exact (slotAt_zero e n).symm

/-! ## The producer's steps -/

/-- What one atomic step has to keep and to report. -/
structure StepOk (e n : Nat) (s : Spsc) (r : Spsc × Report) : Prop where
  inv : SpscInv e n r.1
  full : ∀ b, r.2 = .full b → (b = true ↔ s.outstanding = n)
  empty : ∀ b, r.2 = .empty b → (b = true ↔ s.outstanding = 0)

/-- A step that reports nothing. -/
theorem StepOk.silent {e n : Nat} {s s' : Spsc} (h : SpscInv e n s') : StepOk e n s (s', .none) :=
  ⟨h, nofun, nofun⟩

/-- A step of the producer that reports whether the queue is full. -/
theorem StepOk.reportFull {e n : Nat} {s s' : Spsc} {b : Bool} (h : SpscInv e n s')
    (hb : b = true ↔ s.outstanding = n) : StepOk e n s (s', .full b) :=
  ⟨h, fun b' hb' => (by cases hb'; exact hb), nofun⟩

/-- A step of the consumer that reports whether the queue is empty. -/
theorem StepOk.reportEmpty {e n : Nat} {s s' : Spsc} {b : Bool} (h : SpscInv e n s')
    (hb : b = true ↔ s.outstanding = 0) : StepOk e n s (s', .empty b) :=
  ⟨h, nofun, fun b' hb' => (by cases hb'; exact hb)⟩

section steps

variable {e n : Nat} {s : Spsc}

/-- Only the producer's position changes. -/
theorem SpscInv.setProd (h : SpscInv e n s) {p : ProdPc}
    (hp : ProdAt e n { s with prod := p }) : SpscInv e n { s with prod := p } :=
  ⟨h.size, h.fifo, h.room, h.holds, h.free, hp, h.cons⟩

/-- Only the consumer's position changes. -/
theorem SpscInv.setCons (h : SpscInv e n s) {c : ConsPc}
    (hc : ConsAt e n { s with cons := c }) : SpscInv e n { s with cons := c } :=
  ⟨h.size, h.fifo, h.room, h.holds, h.free, h.prod, hc⟩

/-- Outside of `queue_enqueue` the producer's slot is the next one, and holds
what would be enqueued. -/
theorem SpscInv.tail_at (h : SpscInv e n s) (hp : s.prod.inCall = false) :
    s.eq.tail = slotAt e n s.produced.length ∧
      entryData s.mem e (slotAt e n s.produced.length) = s.ownData := by
  have hat := h.prod
  have hsz := h.size.2.1
  unfold ProdAt at hat
  unfold Spsc.ownData
  cases hc : s.prod with
  | idle =>
    rw [hc] at hat
    exact ⟨hat, by rw [hsz, hat]⟩
  | got =>
    rw [hc] at hat
    exact ⟨hat.1, by rw [hsz, hat.1]⟩
  | filled data =>
    rw [hc] at hat
    exact ⟨hat.1, hat.2.2⟩
  | storing a t data =>
    rw [hc] at hp
    cases hp

/-- Outside of `queue_dequeue` the consumer's slot is that of the oldest entry,
and if there is one, it is what would be dequeued. -/
theorem SpscInv.head_at (h : SpscInv e n s) (hc : s.cons.inCall = false) :
    s.dq.head = slotAt e n s.consumed.length ∧
      (s.consumed.length < s.produced.length →
        s.produced[s.consumed.length]? = some s.heldEntry) := by
  have hat := h.cons
  have hslot : s.dq.head = slotAt e n s.consumed.length →
      s.consumed.length < s.produced.length → s.produced[s.consumed.length]? =
        some (s.mem s.dq.head, entryData s.mem s.dq.elsize s.dq.head) := by
    intro hhead hlt
    have hget := List.getElem?_eq_getElem hlt
    obtain ⟨htype, hdata, -⟩ := h.holds _ _ (Nat.le_refl _) hget
    rw [h.size.2.2.2, hhead, htype, hdata]
    exact hget
  unfold ConsAt at hat
  unfold Spsc.heldEntry
  cases hcc : s.cons with
  | idle =>
    rw [hcc] at hat
    exact ⟨hat, hslot hat⟩
  | got =>
    rw [hcc] at hat
    exact ⟨hat.1, hslot hat.1⟩
  | read en =>
    rw [hcc] at hat
    exact ⟨hat.1, fun _ => hat.2⟩
  | clearing a en =>
    rw [hcc] at hc
    cases hc

/-- Where there is room, the slot is the producer's, looked at or filled. -/
theorem SpscInv.look_prod (h : SpscInv e n s) (hp : s.prod.inCall = false)
    (hroom : s.produced.length < s.consumed.length + n) :
    ProdAt e n { s with prod := s.prod.look } := by
  obtain ⟨htail, hdata⟩ := h.tail_at hp
  cases hc : s.prod with
  | idle | got => exact ⟨htail, hroom⟩
  | filled data =>
    rw [Spsc.ownData, hc] at hdata
    exact ⟨htail, hroom, hdata⟩
  | storing a t data =>
    rw [hc] at hp
    cases hp

/-- `queue_tail` reports full exactly when the queue is. -/
theorem callTail_ok (hn : 0 < n) (h : SpscInv e n s) (hp : s.prod.inCall = false) :
    StepOk e n s (s.step .callTail) ∧
      (s.step .callTail).2 = .full (decide (s.outstanding = n)) := by
  have htail := (h.tail_at hp).1
  have hfull := h.tail_full_iff hn
  rw [Spsc.step_callTail hp]
  unfold queueTail
  rw [htail]
  by_cases hz : s.mem (slotAt e n s.produced.length) ≠ 0
  · have ho := hfull.mp hz
    rw [if_pos hz]
    exact ⟨StepOk.reportFull h ⟨fun _ => ho, fun _ => rfl⟩, by rw [decide_eq_true ho]⟩
  · have hne : ¬ s.outstanding = n := fun ho => hz (hfull.mpr ho)
    rw [if_neg hz]
    refine ⟨StepOk.reportFull (h.setProd (h.look_prod hp ?_)) ⟨nofun, fun ho => absurd ho hne⟩,
      by rw [decide_eq_false hne]⟩
    have hroom := h.room
    have hle := h.le
    unfold Spsc.outstanding at hne
    omega

/-- Filling touches the free slot only. -/
theorem fill_ok (he : 0 < e) (h : SpscInv e n s)
    (hp : s.prod = .got ∨ ∃ filled, s.prod = .filled filled) (data : Nat → UInt8) :
    StepOk e n s (s.step (.fill data)) := by
  obtain ⟨htail, hlt⟩ : s.eq.tail = slotAt e n s.produced.length ∧
      s.produced.length < s.consumed.length + n := by
    have hat := h.prod
    unfold ProdAt at hat
    rcases hp with hp | ⟨filled, hp⟩
    · rwa [hp] at hat
    · rw [hp] at hat
      exact ⟨hat.1, hat.2.1⟩
  have hsz := h.size.2.1
  have hstep : s.step (.fill data) = ({ s with
      mem := fillEntry s.mem s.eq.elsize s.eq.tail data
      prod := .filled ((List.range (s.eq.elsize - 1)).map data) }, .none) := by
    unfold Spsc.step
    rcases hp with hp | ⟨filled, hp⟩ <;> rw [hp]
  rw [hstep]
  refine StepOk.silent ⟨h.size, h.fifo, h.room, fun k en hk hget => ?_, fun k hk hlt' => ?_, ?_,
    h.cons⟩
  · -- the producer's slot is none of the outstanding ones
    dsimp only at hk hget ⊢
    have hkp := (List.getElem?_eq_some_iff.mp hget).1
    obtain ⟨h₁, h₂, h₃⟩ := h.holds k en hk hget
    rw [hsz, htail, fillEntry_type he, fillEntry_data hkp (by omega)]
    exact ⟨h₁, h₂, h₃⟩
  · dsimp only
    rw [hsz, htail, fillEntry_type he]
    exact h.free k hk hlt'
  · refine ⟨htail, hlt, ?_⟩
    dsimp only
    rw [hsz, htail, fillEntry_same]

/-- The load of `queue_enqueue` reports full, or takes the slot. -/
theorem callEnqueue_ok (he : 0 < e) (hn : 0 < n) (hlt : e * n < 4294967296) (h : SpscInv e n s)
    (hp : s.prod.inCall = false) {t : UInt8} (ht : t ≠ 0) :
    StepOk e n s (s.step (.callEnqueue t)) ∧
      (s.step (.callEnqueue t)).2 = .full (decide (s.outstanding = n)) := by
  obtain ⟨htail, hdata⟩ := h.tail_at hp
  have hfull := h.tail_full_iff hn
  rw [Spsc.step_callEnqueue hp ht]
  unfold queueEnqueue
  rw [htail]
  by_cases hz : s.mem (slotAt e n s.produced.length) ≠ 0
  · -- every slot holds an entry: only a call without `queue_tail` comes here
    have ho := hfull.mp hz
    rw [if_pos hz]
    exact ⟨StepOk.reportFull (h.setProd htail) ⟨fun _ => ho, fun _ => rfl⟩,
      by rw [decide_eq_true ho]⟩
  · have hne : ¬ s.outstanding = n := fun ho => hz (hfull.mpr ho)
    rw [if_neg hz]
    refine ⟨StepOk.reportFull ⟨h.size, h.fifo, h.room, h.holds, h.free, ?_, h.cons⟩
      ⟨nofun, fun ho => absurd ho hne⟩, by rw [decide_eq_false hne]⟩
    have hroom := h.room
    have hle := h.le
    unfold Spsc.outstanding at hne
    refine ⟨?_, ?_, hdata, rfl, ht⟩
    · show queueNext s.eq.tail s.eq.nelems s.eq.elsize = _
      rw [h.size.1, h.size.2.1, htail]
      exact queueNext_slotAt he hn hlt
    · dsimp only
      omega

/-- Its store adds the entry behind the others. -/
theorem storeType_ok (he : 0 < e) (h : SpscInv e n s) {a : Nat} {t : UInt8}
    {data : List UInt8} (hp : s.prod = .storing a t data) :
    StepOk e n s (s.step .storeType) := by
  obtain ⟨htail, hlt, hdata, rfl, ht⟩ : s.eq.tail = slotAt e n (s.produced.length + 1) ∧
      s.produced.length < s.consumed.length + n ∧
      entryData s.mem e (slotAt e n s.produced.length) = data ∧
      a = slotAt e n s.produced.length ∧ t ≠ 0 := by
    have := h.prod
    rwa [ProdAt, hp] at this
  have hle := h.le
  have hlen : (s.produced ++ [(t, data)]).length = s.produced.length + 1 := by
    rw [List.length_append, List.length_singleton]
  unfold Spsc.step
  rw [hp]
  refine StepOk.silent ⟨h.size, ?_, ?_, fun k en hk hget => ?_, fun k hk hk' => ?_, ?_, ?_⟩
  · dsimp only
    rw [List.take_append_of_le_length hle]
    exact h.fifo
  · dsimp only
    rw [hlen]
    omega
  · dsimp only at hk hget ⊢
    rw [putType_data he]
    by_cases hkp : k < s.produced.length
    · rw [List.getElem?_append_left hkp] at hget
      rw [(putType_type he hkp (by omega) t).2]
      exact h.holds k en hk hget
    · -- the entry just stored
      have hkl := (List.getElem?_eq_some_iff.mp hget).1
      rw [hlen] at hkl
      obtain rfl : k = s.produced.length := by omega
      rw [List.getElem?_concat_length] at hget
      cases hget
      exact ⟨putType_same _ t, hdata, ht⟩
  · dsimp only at hk hk' ⊢
    rw [hlen] at hk
    rw [(putType_type he (show s.produced.length < k by omega) (by omega) t).1]
    exact h.free k (by omega) hk'
  · show s.eq.tail = slotAt e n (s.produced ++ [(t, data)]).length
    rw [hlen, htail]
  · have hcons := h.cons
    unfold ConsAt at hcons ⊢
    dsimp only
    split
    · next hc => rw [hc] at hcons; exact hcons
    · next hc =>
      rw [hc] at hcons
      exact ⟨hcons.1, by have := hcons.2; omega⟩
    · next en hc =>
      rw [hc] at hcons
      have hkl := (List.getElem?_eq_some_iff.mp hcons.2).1
      exact ⟨hcons.1, by rw [List.getElem?_append_left hkl]; exact hcons.2⟩
    · next a en hc =>
      rw [hc] at hcons
      have hkl := (List.getElem?_eq_some_iff.mp hcons.2.1).1
      exact ⟨hcons.1, by rw [List.getElem?_append_left hkl]; exact hcons.2.1, hcons.2.2⟩

/-! ## The consumer's steps -/

/-- Where there is an entry, it is the consumer's, looked at or read. -/
theorem SpscInv.look_cons (h : SpscInv e n s) (hc : s.cons.inCall = false)
    (hlt : s.consumed.length < s.produced.length) :
    ConsAt e n { s with cons := s.cons.look } := by
  obtain ⟨hhead, hheld⟩ := h.head_at hc
  cases hcc : s.cons with
  | idle | got => exact ⟨hhead, hlt⟩
  | read en =>
    have hheld := hheld hlt
    rw [Spsc.heldEntry, hcc] at hheld
    exact ⟨hhead, hheld⟩
  | clearing a en =>
    rw [hcc] at hc
    cases hc

/-- `queue_head` reports empty exactly when the queue is. -/
theorem callHead_ok (hn : 0 < n) (h : SpscInv e n s) (hc : s.cons.inCall = false) :
    StepOk e n s (s.step .callHead) ∧
      (s.step .callHead).2 = .empty (decide (s.outstanding = 0)) := by
  have hhead := (h.head_at hc).1
  have hempty := h.head_empty_iff hn
  rw [Spsc.step_callHead hc]
  unfold queueHead
  rw [hhead]
  by_cases hz : s.mem (slotAt e n s.consumed.length) = 0
  · have ho := hempty.mp hz
    rw [if_pos hz]
    exact ⟨StepOk.reportEmpty h ⟨fun _ => ho, fun _ => rfl⟩, by rw [decide_eq_true ho]⟩
  · have hne : ¬ s.outstanding = 0 := fun ho => hz (hempty.mpr ho)
    rw [if_neg hz]
    refine ⟨StepOk.reportEmpty (h.setCons (h.look_cons hc ?_)) ⟨nofun, fun ho => absurd ho hne⟩,
      by rw [decide_eq_false hne]⟩
    unfold Spsc.outstanding at hne
    omega

theorem readEntry_ok (h : SpscInv e n s) (hc : s.cons = .got) :
    StepOk e n s (s.step .readEntry) := by
  have hlt : s.consumed.length < s.produced.length := by
    have hat := h.cons
    rw [ConsAt, hc] at hat
    exact hat.2
  obtain ⟨hhead, hheld⟩ := h.head_at (by rw [hc]; rfl)
  unfold Spsc.step
  rw [hc]
  exact StepOk.silent (h.setCons ⟨hhead, hheld hlt⟩)

/-- The load of `queue_dequeue` reports empty, or takes the entry. -/
theorem callDequeue_ok (he : 0 < e) (hn : 0 < n) (hlt : e * n < 4294967296) (h : SpscInv e n s)
    (hc : s.cons.inCall = false) :
    StepOk e n s (s.step .callDequeue) ∧
      (s.step .callDequeue).2 = .empty (decide (s.outstanding = 0)) := by
  obtain ⟨hhead, hheld⟩ := h.head_at hc
  have hempty := h.head_empty_iff hn
  rw [Spsc.step_callDequeue hc]
  unfold queueDequeue
  rw [hhead]
  by_cases hz : s.mem (slotAt e n s.consumed.length) = 0
  · -- no slot holds an entry: only a call without `queue_head` comes here
    have ho := hempty.mp hz
    rw [if_pos hz]
    exact ⟨StepOk.reportEmpty (h.setCons hhead) ⟨fun _ => ho, fun _ => rfl⟩,
      by rw [decide_eq_true ho]⟩
  · have hne : ¬ s.outstanding = 0 := fun ho => hz (hempty.mpr ho)
    rw [if_neg hz]
    refine ⟨StepOk.reportEmpty ⟨h.size, h.fifo, h.room, h.holds, h.free, h.prod, ?_⟩
      ⟨nofun, fun ho => absurd ho hne⟩, by rw [decide_eq_false hne]⟩
    unfold Spsc.outstanding at hne
    refine ⟨?_, hheld (by omega), rfl⟩
    show queueNext s.dq.head s.dq.nelems s.dq.elsize = _
    rw [h.size.2.2.1, h.size.2.2.2, hhead]
    exact queueNext_slotAt he hn hlt

/-- Its store gives the slot back. -/
theorem clearType_ok (he : 0 < e) (h : SpscInv e n s) {a : Nat} {en : Entry}
    (hc : s.cons = .clearing a en) : StepOk e n s (s.step .clearType) := by
  obtain ⟨hhead, hget, rfl⟩ : s.dq.head = slotAt e n (s.consumed.length + 1) ∧
      s.produced[s.consumed.length]? = some en ∧ a = slotAt e n s.consumed.length := by
    have := h.cons
    rwa [ConsAt, hc] at this
  have hkl := (List.getElem?_eq_some_iff.mp hget).1
  have hroom := h.room
  have hlen : (s.consumed ++ [en]).length = s.consumed.length + 1 := by
    rw [List.length_append, List.length_singleton]
  unfold Spsc.step
  rw [hc]
  refine StepOk.silent ⟨h.size, ?_, ?_, fun k en' hk hget' => ?_, fun k hk hk' => ?_, ?_, ?_⟩
  · dsimp only
    rw [hlen, List.take_add_one, ← h.fifo, hget]
    rfl
  · dsimp only
    rw [hlen]
    omega
  · dsimp only at hk hget' ⊢
    rw [hlen] at hk
    have hkp := (List.getElem?_eq_some_iff.mp hget').1
    rw [putType_data he, (putType_type he (show s.consumed.length < k by omega) (by omega) 0).1]
    exact h.holds k en' (by omega) hget'
  · dsimp only at hk hk' ⊢
    rw [hlen] at hk'
    by_cases hkn : k < s.consumed.length + n
    · rw [(putType_type he (show s.consumed.length < k by omega) hkn 0).1]
      exact h.free k hk hkn
    · -- the slot just cleared, one round later
      have hslot : slotAt e n k = slotAt e n s.consumed.length := by
        unfold slotAt
        rw [show k = s.consumed.length + n by omega, Nat.add_mod_right]
      rw [hslot, putType_same]
  · have hprod := h.prod
    unfold ProdAt at hprod ⊢
    dsimp only
    split
    · next hp => rw [hp] at hprod; exact hprod
    · next hp =>
      rw [hp] at hprod
      exact ⟨hprod.1, by rw [hlen]; have := hprod.2; omega⟩
    · next data hp =>
      rw [hp] at hprod
      refine ⟨hprod.1, by rw [hlen]; have := hprod.2.1; omega, ?_⟩
      rw [putType_data he]
      exact hprod.2.2
    · next a t data hp =>
      rw [hp] at hprod
      refine ⟨hprod.1, by rw [hlen]; have := hprod.2.1; omega, ?_, hprod.2.2.2⟩
      rw [putType_data he]
      exact hprod.2.2.1
  · show s.dq.head = slotAt e n (s.consumed ++ [en]).length
    rw [hlen, hhead]

/-- Every atomic step of either side keeps the invariant and reports full
and empty truthfully. -/
theorem Spsc.step_ok (he : 0 < e) (hn : 0 < n) (hlt : e * n < 4294967296) (h : SpscInv e n s)
    (a : SpscAct) : StepOk e n s (s.step a) := by
  -- a side that is not where the step starts does nothing
  have hskip : s.step a = (s, .none) → StepOk e n s (s.step a) := by
    intro heq
    rw [heq]
    exact StepOk.silent h
  cases a with
  | callTail =>
    by_cases hguard : s.prod.inCall = true
    · exact hskip (if_pos hguard)
    · exact (callTail_ok hn h (Bool.eq_false_iff.mpr hguard)).1
  | fill data =>
    cases hp : s.prod with
    | got => exact fill_ok he h (.inl hp) data
    | filled filled => exact fill_ok he h (.inr ⟨filled, hp⟩) data
    | idle | storing => exact hskip (by simp only [Spsc.step, hp])
  | callEnqueue t =>
    by_cases hguard : t = 0 ∨ s.prod.inCall = true
    · exact hskip (if_pos hguard)
    · obtain ⟨ht, hp⟩ := not_or.mp hguard
      exact (callEnqueue_ok he hn hlt h (Bool.eq_false_iff.mpr hp) ht).1
  | storeType =>
    cases hp : s.prod with
    | storing a t data => exact storeType_ok he h hp
    | idle | got | filled => exact hskip (by simp only [Spsc.step, hp])
  | callHead =>
    by_cases hguard : s.cons.inCall = true
    · exact hskip (if_pos hguard)
    · exact (callHead_ok hn h (Bool.eq_false_iff.mpr hguard)).1
  | readEntry =>
    cases hc : s.cons with
    | got => exact readEntry_ok h hc
    | idle | read | clearing => exact hskip (by simp only [Spsc.step, hc])
  | callDequeue =>
    by_cases hguard : s.cons.inCall = true
    · exact hskip (if_pos hguard)
    · exact (callDequeue_ok he hn hlt h (Bool.eq_false_iff.mpr hguard)).1
  | clearType =>
    cases hc : s.cons with
    | clearing a en => exact clearType_ok he h hc
    | idle | got | read => exact hskip (by simp only [Spsc.step, hc])

end steps

/-! ## Calls and reports -/

/-- **What the four calls report** in a state with `n` slots, each wherever its
side is outside of a call. -/
structure ReportsTruly (n : Nat) (s : Spsc) : Prop where
  tail : s.prod.inCall = false → (s.step .callTail).2 = .full (decide (s.outstanding = n))
  enqueue : s.prod.inCall = false → ∀ t, t ≠ 0 →
    (s.step (.callEnqueue t)).2 = .full (decide (s.outstanding = n))
  head : s.cons.inCall = false → (s.step .callHead).2 = .empty (decide (s.outstanding = 0))
  dequeue : s.cons.inCall = false →
    (s.step .callDequeue).2 = .empty (decide (s.outstanding = 0))

theorem SpscInv.reportsTruly {e n : Nat} {s : Spsc} (he : 0 < e) (hn : 0 < n)
    (hlt : e * n < 4294967296) (h : SpscInv e n s) : ReportsTruly n s :=
  ⟨fun hp => (callTail_ok hn h hp).2, fun hp _ ht => (callEnqueue_ok he hn hlt h hp ht).2,
    fun hc => (callHead_ok hn h hc).2, fun hc => (callDequeue_ok he hn hlt h hc).2⟩

/-- Without anything in between, the two steps of `queue_enqueue` are
`queue_enqueue`, and the two of `queue_dequeue` are `queue_dequeue`. -/
structure CallsWhole (s : Spsc) : Prop where
  enqueue : s.prod.inCall = false → ∀ t, t ≠ 0 → queueEnqueue s.mem s.eq t =
    if (s.step (.callEnqueue t)).2 = .full true then none
    else some (((s.step (.callEnqueue t)).1.step .storeType).1.mem,
      ((s.step (.callEnqueue t)).1.step .storeType).1.eq)
  dequeue : s.cons.inCall = false → queueDequeue s.mem s.dq =
    if (s.step .callDequeue).2 = .empty true then none
    else some (((s.step .callDequeue).1.step .clearType).1.mem,
      ((s.step .callDequeue).1.step .clearType).1.dq)

theorem Spsc.callsWhole (s : Spsc) : CallsWhole s := by
  constructor
  · intro hp t ht
    rw [Spsc.step_callEnqueue hp ht]
    unfold queueEnqueue
    by_cases hz : s.mem s.eq.tail ≠ 0
    · rw [if_pos hz]
      exact (if_pos rfl).symm
    · rw [if_neg hz]
      rfl
  · intro hc
    rw [Spsc.step_callDequeue hc]
    unfold queueDequeue
    by_cases hz : s.mem s.dq.head = 0
    · rw [if_pos hz]
      exact (if_pos rfl).symm
    · rw [if_neg hz]
      rfl

/-! ## The queue as a `Fifo`

What the rest of the development takes a queue for: the list of its
entries. A step of the ring is a push with room, a pop, or neither. -/

/-- The entries in the queue, oldest first. -/
def Spsc.toFifo (s : Spsc) : Fifo Entry :=
  { items := s.produced.drop s.consumed.length, nelems := s.eq.nelems }

theorem SpscInv.toFifo_length {e n : Nat} {s : Spsc} (h : SpscInv e n s) :
    s.toFifo.items.length = s.outstanding ∧ s.toFifo.nelems = n :=
  ⟨List.length_drop, h.size.1⟩

/-- The store of the type byte pushes the entry. -/
theorem storeType_push {e n : Nat} {s : Spsc} (h : SpscInv e n s) {a : Nat} {t : UInt8}
    {data : List UInt8} (hp : s.prod = .storing a t data) :
    s.toFifo.push (t, data) = some (s.step .storeType).1.toFifo := by
  obtain ⟨-, hlt, -⟩ : s.eq.tail = slotAt e n (s.produced.length + 1) ∧
      s.produced.length < s.consumed.length + n ∧ _ := by
    have := h.prod
    rwa [ProdAt, hp] at this
  have hle := h.le
  have hlen := h.toFifo_length
  have hroom : s.toFifo.hasRoom = true := by
    unfold Fifo.hasRoom
    rw [decide_eq_true_eq, hlen.1, hlen.2]
    unfold Spsc.outstanding
    omega
  rw [Fifo.push_of_room hroom]
  unfold Spsc.step
  rw [hp]
  unfold Spsc.toFifo
  dsimp only
  rw [List.drop_append_of_le_length hle]

/-- The clearing of the type byte pops the entry that was read. -/
theorem clearType_pop {e n : Nat} {s : Spsc} (h : SpscInv e n s) {a : Nat} {en : Entry}
    (hc : s.cons = .clearing a en) :
    s.toFifo.head? = some en ∧ (s.step .clearType).1.toFifo = s.toFifo.pop := by
  obtain ⟨-, hget, -⟩ : s.dq.head = slotAt e n (s.consumed.length + 1) ∧
      s.produced[s.consumed.length]? = some en ∧ a = slotAt e n s.consumed.length := by
    have := h.cons
    rwa [ConsAt, hc] at this
  refine ⟨?_, ?_⟩
  · unfold Fifo.head? Spsc.toFifo
    rw [List.head?_drop]
    exact hget
  · unfold Spsc.step
    rw [hc]
    unfold Spsc.toFifo Fifo.pop
    dsimp only
    rw [List.length_append, List.length_singleton, List.tail_drop]

/-- All other steps leave the entries alone. -/
theorem Spsc.step_toFifo_other (s : Spsc) (a : SpscAct) (hp : a ≠ .storeType)
    (hc : a ≠ .clearType) : (s.step a).1.toFifo = s.toFifo := by
  cases a with
  | storeType => exact absurd rfl hp
  | clearType => exact absurd rfl hc
  | callTail =>
    by_cases hguard : s.prod.inCall = true
    · rw [show s.step .callTail = (s, .none) from if_pos hguard]
    · rw [Spsc.step_callTail (Bool.eq_false_iff.mpr hguard)]
      cases queueTail s.mem s.eq with
      | none => rfl
      | some a => rfl
  | fill data =>
    unfold Spsc.step
    dsimp only
    split <;> rfl
  | callEnqueue t =>
    by_cases hguard : t = 0 ∨ s.prod.inCall = true
    · rw [show s.step (.callEnqueue t) = (s, .none) from if_pos hguard]
    · obtain ⟨ht, hin⟩ := not_or.mp hguard
      rw [Spsc.step_callEnqueue (Bool.eq_false_iff.mpr hin) ht]
      unfold queueEnqueue
      by_cases hz : s.mem s.eq.tail ≠ 0
      · rw [if_pos hz]
        rfl
      · rw [if_neg hz]
        rfl
  | callHead =>
    by_cases hguard : s.cons.inCall = true
    · rw [show s.step .callHead = (s, .none) from if_pos hguard]
    · rw [Spsc.step_callHead (Bool.eq_false_iff.mpr hguard)]
      cases queueHead s.mem s.dq with
      | none => rfl
      | some a => rfl
  | readEntry =>
    unfold Spsc.step
    dsimp only
    split <;> rfl
  | callDequeue =>
    by_cases hguard : s.cons.inCall = true
    · rw [show s.step .callDequeue = (s, .none) from if_pos hguard]
    · rw [Spsc.step_callDequeue (Bool.eq_false_iff.mpr hguard)]
      unfold queueDequeue
      by_cases hz : s.mem s.dq.head = 0
      · rw [if_pos hz]
        rfl
      · rw [if_neg hz]
        rfl

/-- A step on the `Fifo` of the entries: none, a push that finds room, or a pop
of the head. -/
inductive FifoMove (q : Fifo Entry) : Fifo Entry → Prop
  | stay : FifoMove q q
  | push {en : Entry} {q' : Fifo Entry} (h : q.push en = some q') : FifoMove q q'
  | pop {en : Entry} (h : q.head? = some en) : FifoMove q q.pop

/-- **The ring refines the `Fifo` of its entries.** -/
theorem Spsc.step_refines {e n : Nat} {s : Spsc} (h : SpscInv e n s) (a : SpscAct) :
    FifoMove s.toFifo (s.step a).1.toFifo := by
  by_cases hst : a = .storeType
  · subst hst
    cases hp : s.prod with
    | storing a t data => exact .push (storeType_push h hp)
    | idle | got | filled =>
      rw [show (s.step .storeType).1 = s by simp only [Spsc.step, hp]]
      exact .stay
  · by_cases hcl : a = .clearType
    · subst hcl
      cases hc : s.cons with
      | clearing a en =>
        obtain ⟨hhead, hpop⟩ := clearType_pop h hc
        rw [hpop]
        exact .pop hhead
      | idle | got | read =>
        rw [show (s.step .clearType).1 = s by simp only [Spsc.step, hc]]
        exact .stay
    · rw [s.step_toFifo_other a hst hcl]
      exact .stay

/-- `queue_tail` looks for room, `queue_head` for an entry. -/
theorem SpscInv.toFifo_looks {e n : Nat} {s : Spsc} (h : SpscInv e n s) :
    (s.toFifo.hasRoom = true ↔ s.outstanding ≠ n) ∧
      (s.toFifo.items = [] ↔ s.outstanding = 0) := by
  obtain ⟨hlen, hn⟩ := h.toFifo_length
  have hroom := h.room
  have hout : s.outstanding ≤ n := by
    unfold Spsc.outstanding
    omega
  refine ⟨?_, ?_⟩
  · unfold Fifo.hasRoom
    rw [decide_eq_true_eq, hlen, hn]
    omega
  · rw [← List.length_eq_zero_iff, hlen]

/-- **The queue is a bounded FIFO.** For every element size and number of
elements whose product fits 32 bits, in every state reached from a zeroed
region by any interleaving of the two sides, what was consumed is a prefix
of what was produced, at most `nelems` entries are outstanding, and every
call reports full exactly when `nelems` are and empty exactly when none
is. To the rest of the program the ring is the `Fifo` of its entries: each step
is a step of it, room is what `queue_tail` and `queue_enqueue` report, and an
entry what `queue_head` and `queue_dequeue` do; and the steps of one call are
the function. -/
theorem queue_is_bounded_fifo {elsize nelems : Nat} (he : 1 ≤ elsize) (hn : 1 ≤ nelems)
    (hlt : elsize * nelems < 4294967296) {s : Spsc} {log : List Report}
    (hrun : Run (fun _ _ => True) Spsc.step (Spsc.init nelems elsize) log s) :
    s.consumed <+: s.produced ∧ s.outstanding ≤ nelems ∧ ReportsTruly nelems s ∧
      (∀ a b, ((s.step a).2 = .full b → (b = true ↔ s.outstanding = nelems)) ∧
        ((s.step a).2 = .empty b → (b = true ↔ s.outstanding = 0))) ∧
      (∀ a, FifoMove s.toFifo (s.step a).1.toFifo) ∧
      (s.toFifo.hasRoom = true ↔ s.outstanding ≠ nelems) ∧
      (s.toFifo.items = [] ↔ s.outstanding = 0) ∧ CallsWhole s := by
  have hinv : SpscInv elsize nelems s := by
    refine hrun.inv (I := fun _ s => SpscInv elsize nelems s) (Spsc.init_inv elsize nelems) ?_
    intro _ s a h _
    exact (Spsc.step_ok he hn hlt h a).inv
  refine ⟨?_, ?_, hinv.reportsTruly he hn hlt, fun a b => ?_, Spsc.step_refines hinv,
    hinv.toFifo_looks.1, hinv.toFifo_looks.2, s.callsWhole⟩
  · rw [hinv.fifo]
    exact List.take_prefix _ _
  · have := hinv.room
    unfold Spsc.outstanding
    omega
  · have hok := Spsc.step_ok he hn hlt hinv a
    exact ⟨hok.full b, hok.empty b⟩

/-- One entry through a queue of one, with a `queue_enqueue` that finds the queue
full and a `queue_dequeue` that finds it empty. -/
theorem queue_is_bounded_fifo_one :
    ∃ s log, Run (fun _ _ => True) Spsc.step (Spsc.init 1 3) log s ∧
      log = [.full false, .none, .full false, .none, .full true, .empty false, .none,
        .empty false, .none, .empty true] ∧
      s.consumed = [(7, [9, 9])] ∧ s.consumed <+: s.produced := by
  have h₁ : Run (fun _ _ => True) Spsc.step (Spsc.init 1 3) _ _ :=
    Run.snoc (a := SpscAct.callTail) Run.nil trivial
  have h₂ := Run.snoc (a := SpscAct.fill fun _ => 9) h₁ trivial
  have h₃ := Run.snoc (a := SpscAct.callEnqueue 7) h₂ trivial
  have h₄ := Run.snoc (a := SpscAct.storeType) h₃ trivial
  have h₅ := Run.snoc (a := SpscAct.callEnqueue 8) h₄ trivial
  have h₆ := Run.snoc (a := SpscAct.callHead) h₅ trivial
  have h₇ := Run.snoc (a := SpscAct.readEntry) h₆ trivial
  have h₈ := Run.snoc (a := SpscAct.callDequeue) h₇ trivial
  have h₉ := Run.snoc (a := SpscAct.clearType) h₈ trivial
  have hrun := Run.snoc (a := SpscAct.callDequeue) h₉ trivial
  exact ⟨_, _, hrun, rfl, rfl,
    (queue_is_bounded_fifo (by decide) (by decide) (by decide) hrun).1⟩

end Chamelio.Util
