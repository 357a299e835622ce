import Mathlib.Algebra.BigOperators.Group.Finset.Basic
import Mathlib.Data.Int.ModEq
import Chamelio.Lib.SlotQ

/-!
# Rounds over rings of messages

A consumer goes around `n` queues with a cursor: it stays at a queue until it
finds it empty, then moves on, and a round is over when it has moved `n` times.
`ahead` is what is left to do in a round, the sum over the queues from the
cursor on that were not found empty yet. It goes down by what a queue is found
to have, and up by what arrives at a queue that is still ahead, and that is
all a bound on the work of a round needs.

The messages of a ring with slots are counted by `SlotQ.count`.
-/

namespace Chamelio.Lib

/-! ## Messages in a ring -/

namespace SlotQ

/-- Slots a cursor can stand at; a ring without slots still has one. -/
def slots (q : SlotQ) : Nat := max q.nelems 1

/-- Both cursors are at a slot. -/
structure InSlots (q : SlotQ) : Prop where
  head : q.head < q.slots
  tail : q.tail < q.slots

/-- Number of messages. -/
def count (q : SlotQ) : Nat := ((Finset.range q.slots).filter fun i => q.typ i ≠ 0).card

theorem next_lt (q : SlotQ) (i : Nat) : q.next i < q.slots := by
  unfold next slots
  split <;> omega

theorem InSlots.push {q : SlotQ} (h : q.InSlots) (fill : (Nat → UInt8) → Nat → UInt8)
    (t : UInt8) : (q.push fill t).InSlots :=
  ⟨h.head, q.next_lt q.tail⟩

theorem InSlots.pop {q : SlotQ} (h : q.InSlots) : q.pop.InSlots :=
  ⟨q.next_lt q.head, h.tail⟩

theorem zeroed_inSlots (n : Nat) : (zeroed n).InSlots := by
  have hpos : 0 < (zeroed n).slots := by
    unfold slots
    omega
  exact ⟨hpos, hpos⟩

/-- One more message where there was room. -/
theorem InSlots.count_push {q : SlotQ} (h : q.InSlots) (hroom : q.hasRoom = true)
    (fill : (Nat → UInt8) → Nat → UInt8) {t : UInt8} (ht : t ≠ 0) :
    (q.push fill t).count = q.count + 1 := by
  have htail : q.typ q.tail = 0 := eq_of_beq hroom
  have htyp : ∀ i, (q.push fill t).typ i = if i = q.tail then t else q.typ i := fun _ => rfl
  have hset : ((Finset.range q.slots).filter fun i => (q.push fill t).typ i ≠ 0) =
      insert q.tail ((Finset.range q.slots).filter fun i => q.typ i ≠ 0) := by
    ext i
    simp only [htyp, Finset.mem_filter, Finset.mem_range, Finset.mem_insert]
    by_cases hi : i = q.tail
    · simp [hi, h.tail, ht]
    · simp [hi]
  unfold count
  rw [show (q.push fill t).slots = q.slots from rfl, hset,
    Finset.card_insert_of_notMem (by simp [htail])]

/-- One less when the head was taken. -/
theorem InSlots.count_pop {q : SlotQ} (h : q.InSlots) {e : UInt8 × (Nat → UInt8)}
    (he : q.head? = some e) : q.pop.count + 1 = q.count := by
  have hhead : q.typ q.head ≠ 0 := by
    intro h0
    rw [SlotQ.head?, if_pos h0] at he
    cases he
  have htyp : ∀ i, q.pop.typ i = if i = q.head then 0 else q.typ i := fun _ => rfl
  have hset : ((Finset.range q.slots).filter fun i => q.pop.typ i ≠ 0) =
      ((Finset.range q.slots).filter fun i => q.typ i ≠ 0).erase q.head := by
    ext i
    simp only [htyp, Finset.mem_filter, Finset.mem_range, Finset.mem_erase]
    by_cases hi : i = q.head
    · simp [hi]
    · simp [hi]
  have hmem : q.head ∈ (Finset.range q.slots).filter fun i => q.typ i ≠ 0 := by
    simp [h.head, hhead]
  unfold count
  rw [show q.pop.slots = q.slots from rfl, hset]
  exact Finset.card_erase_add_one hmem

end SlotQ

/-! ## What is ahead in a round -/

/-- The sum of `f` over the `m` places from the cursor `c` on, around `n`. -/
def ahead (f : Nat → Nat) (n c m : Nat) : Nat := ∑ k ∈ Finset.range m, f ((c + k) % n)

section

variable {f f' : Nat → Nat} {n c m : Nat}

/-- The cursor moves on: its place is not ahead any more. -/
theorem ahead_move (hc : c < n) :
    ahead f n c (m + 1) = f c + ahead f n ((c + 1) % n) m := by
  unfold ahead
  rw [Finset.sum_range_succ', Nat.add_zero, Nat.mod_eq_of_lt hc, Nat.add_comm]
  congr 1
  refine Finset.sum_congr rfl fun k _ => ?_
  rw [Nat.mod_add_mod, Nat.add_assoc, Nat.add_comm 1 k]

/-- Places other than the cursor's are not it. -/
private theorem mod_ne_of_pos {k : Nat} (hc : c < n) (hk : 0 < k) (hkn : k < n) :
    (c + k) % n ≠ c := by
  intro heq
  by_cases hlt : c + k < n
  · rw [Nat.mod_eq_of_lt hlt] at heq
    omega
  · rw [Nat.mod_eq_sub_mod (by omega), Nat.mod_eq_of_lt (by omega)] at heq
    omega

/-- Only the cursor's place changed. -/
theorem ahead_congr (hc : c < n) (hm : m < n) (hoff : ∀ j, j ≠ c → f' j = f j) :
    ahead f' n ((c + 1) % n) m = ahead f n ((c + 1) % n) m := by
  unfold ahead
  refine Finset.sum_congr rfl fun k hk => hoff _ ?_
  have hk := Finset.mem_range.mp hk
  rw [Nat.mod_add_mod, Nat.add_assoc, Nat.add_comm 1 k]
  exact mod_ne_of_pos hc (by omega) (by omega)

/-- The place `p` is ahead. -/
def Ahead (n c m p : Nat) : Prop := ∃ k, k < m ∧ (c + k) % n = p

instance (n c m p : Nat) : Decidable (Ahead n c m p) :=
  inferInstanceAs (Decidable (∃ k, k < m ∧ (c + k) % n = p))

/-- What is not ahead does not matter. -/
theorem ahead_of_not (hp : ¬ Ahead n c m p) (hoff : ∀ j, j ≠ p → f' j = f j) :
    ahead f' n c m = ahead f n c m := by
  unfold ahead
  refine Finset.sum_congr rfl fun k hk => hoff _ fun heq => hp ⟨k, ?_, heq⟩
  exact Finset.mem_range.mp hk

/-- A place has at most one turn in a round, so one more at it is one more
ahead at most. -/
theorem ahead_succ_le {p : Nat} (hm : m ≤ n) (hp : f' p ≤ f p + 1)
    (hoff : ∀ j, j ≠ p → f' j = f j) : ahead f' n c m ≤ ahead f n c m + 1 := by
  induction m with
  | zero => simp [ahead]
  | succ m ih =>
    have hsum : ∀ g : Nat → Nat, ahead g n c (m + 1) = ahead g n c m + g ((c + m) % n) :=
      fun g => Finset.sum_range_succ ..
    rw [hsum, hsum]
    by_cases hlast : (c + m) % n = p
    · -- its turn is the last one, and none of those before
      have hno : ¬ Ahead n c m p := by
        intro ⟨k, hk, hkp⟩
        have hmod : (c + k) % n = (c + m) % n := hkp.trans hlast.symm
        have hdvd := (Nat.modEq_iff_dvd' (by omega)).mp hmod
        rw [show c + m - (c + k) = m - k by omega] at hdvd
        have := Nat.le_of_dvd (by omega) hdvd
        omega
      rw [ahead_of_not hno hoff, hlast]
      omega
    · rw [hoff _ hlast]
      have := ih (by omega)
      omega

end

end Chamelio.Lib
