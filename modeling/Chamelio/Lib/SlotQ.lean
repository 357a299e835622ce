/-!
# Message rings whose slots keep their bytes

A ring of slots, each with a type byte (zero: empty) and a data area. The
producer writes some fields of the data area of the tail slot and sets the
type; the consumer reads the head slot and clears the type. What neither
side overwrites stays in the slot, so a message is read together with the
leftovers of the slot's earlier messages.
-/

namespace Chamelio.Lib

structure SlotQ where
  /-- Number of slots. -/
  nelems : Nat
  /-- Slot the producer fills next. -/
  tail : Nat
  /-- Slot the consumer reads next. -/
  head : Nat
  typ : Nat → UInt8
  data : Nat → Nat → UInt8

namespace SlotQ

/-- An empty ring over zeroed memory. -/
def zeroed (nelems : Nat) : SlotQ :=
  { nelems, tail := 0, head := 0, typ := fun _ => 0, data := fun _ _ => 0 }

/-- The slot after `i`, around the ring. -/
def next (q : SlotQ) (i : Nat) : Nat := if q.nelems ≤ i + 1 then 0 else i + 1

/-- `queue_tail(q) != NULL`. -/
def hasRoom (q : SlotQ) : Bool := q.typ q.tail == 0

/-- Fill the tail slot and `queue_enqueue` it. -/
def push (q : SlotQ) (fill : (Nat → UInt8) → Nat → UInt8) (t : UInt8) : SlotQ :=
  { q with
    tail := q.next q.tail
    typ := fun i => if i = q.tail then t else q.typ i
    data := fun i => if i = q.tail then fill (q.data q.tail) else q.data i }

/-- `queue_head`: type and data of the head slot, when it is not empty. -/
def head? (q : SlotQ) : Option (UInt8 × (Nat → UInt8)) :=
  if q.typ q.head = 0 then none else some (q.typ q.head, q.data q.head)

/-- `queue_dequeue`. -/
def pop (q : SlotQ) : SlotQ :=
  { q with
    head := q.next q.head
    typ := fun i => if i = q.head then 0 else q.typ i }

/-- No slot holds a message and both sides stand at the same slot. -/
structure Empty (q : SlotQ) : Prop where
  typ : ∀ i, q.typ i = 0
  head : q.head = q.tail

theorem zeroed_empty (n : Nat) : (zeroed n).Empty := ⟨fun _ => rfl, rfl⟩

theorem Empty.hasRoom {q : SlotQ} (h : q.Empty) : q.hasRoom = true := by
  unfold SlotQ.hasRoom
  rw [h.typ]
  rfl

theorem Empty.head? {q : SlotQ} (h : q.Empty) : q.head? = none := by
  unfold SlotQ.head?
  rw [if_pos (h.typ _)]

/-- The one message of a ring that was empty. -/
theorem Empty.push_head? {q : SlotQ} (h : q.Empty) {fill : (Nat → UInt8) → Nat → UInt8}
    {t : UInt8} (ht : t ≠ 0) :
    (q.push fill t).head? = some (t, fill (q.data q.tail)) := by
  unfold SlotQ.head? push
  simp only [h.head, if_true]
  rw [if_neg ht]

/-- Taking the one message out leaves the ring empty again. -/
theorem Empty.push_pop {q : SlotQ} (h : q.Empty) (fill : (Nat → UInt8) → Nat → UInt8)
    (t : UInt8) : (q.push fill t).pop.Empty := by
  refine ⟨fun i => ?_, ?_⟩
  · unfold pop push
    simp only [h.head]
    split
    · rfl
    · exact h.typ i
  · unfold pop push next
    simp only [h.head]

end SlotQ

end Chamelio.Lib
