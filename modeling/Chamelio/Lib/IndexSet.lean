import Mathlib.Data.List.Nodup
import Mathlib.Data.List.Perm.Subperm
import Mathlib.Logic.Function.Basic

/-!
# Sets in an array with an index table

A set of elements is kept in the first `n` places of an array, in any order,
with the place of each element in a table and -1 for the others. Adding puts
an element behind the last one; removing moves the last one into the hole, so
both are constant time. `Indexed` says that array and table are inverse to
each other, and each of the two edits is one lemma. Removing the last element
writes the table twice at the same element, and the order of the two writes
is what makes that come out right.
-/

namespace Chamelio.Lib

section

variable {α : Type} [DecidableEq α]

/-- The first `n` places of `dense` and the table `index` are inverse to each
other, and the table has -1 elsewhere. -/
structure Indexed (dense : Nat → α) (n : Nat) (index : α → Int) : Prop where
  inverse : ∀ a (i : Nat), index a = i ↔ i < n ∧ dense i = a
  absent : ∀ a, (∀ i : Nat, index a ≠ i) → index a = -1

/-- The element is in the set. -/
def InSet (dense : Nat → α) (n : Nat) (a : α) : Prop := ∃ i, i < n ∧ dense i = a

variable {dense : Nat → α} {n : Nat} {index : α → Int} {a : α} {i : Nat}

omit [DecidableEq α] in
theorem indexed_empty (dense : Nat → α) : Indexed dense 0 fun _ => -1 := by
  refine ⟨fun a i => ?_, fun _ _ => rfl⟩
  constructor
  · intro hi
    omega
  · intro hi
    exact absurd hi.1 (Nat.not_lt_zero i)

omit [DecidableEq α] in
theorem Indexed.at (h : Indexed dense n index) (hi : i < n) : index (dense i) = i :=
  (h.inverse (dense i) i).mpr ⟨hi, rfl⟩

omit [DecidableEq α] in
/-- No element is in two places. -/
theorem Indexed.inj (h : Indexed dense n index) {j : Nat} (hi : i < n) (hj : j < n)
    (heq : dense i = dense j) : i = j := by
  have hij : (i : Int) = j := by rw [← h.at hi, heq, h.at hj]
  exact Int.ofNat.inj hij

omit [DecidableEq α] in
theorem Indexed.inSet_iff (h : Indexed dense n index) (a : α) :
    InSet dense n a ↔ index a ≠ -1 := by
  constructor
  · intro ⟨i, hi, heq⟩
    rw [← heq, h.at hi]
    omega
  · intro hne
    refine Classical.byContradiction fun hno => hne (h.absent a fun i hi => hno ?_)
    exact ⟨i, (h.inverse a i).mp hi⟩

omit [DecidableEq α] in
/-- An element of the set has a place. -/
theorem Indexed.place (h : Indexed dense n index) (ha : index a ≠ -1) :
    ∃ i : Nat, index a = i ∧ i < n ∧ dense i = a := by
  obtain ⟨i, hi⟩ := (h.inSet_iff a).mpr ha
  exact ⟨i, (h.inverse a i).mpr hi, hi⟩

omit [DecidableEq α] in
/-- A set of numbers below a bound has at most that many elements. -/
theorem Indexed.length_le {dense : Nat → Int} {index : Int → Int}
    (h : Indexed dense n index) {bound : Nat}
    (hb : ∀ i, i < n → 0 ≤ dense i ∧ dense i < bound) : n ≤ bound := by
  have hnodup : ((List.range n).map fun i => (dense i).toNat).Nodup := by
    refine List.Nodup.map_on (fun i hi j hj heq => ?_) List.nodup_range
    have hi' := List.mem_range.mp hi
    have hj' := List.mem_range.mp hj
    refine h.inj hi' hj' ?_
    have := (hb i hi').1
    have := (hb j hj').1
    omega
  have hsub : ((List.range n).map fun i => (dense i).toNat) ⊆ List.range bound := by
    intro x hx
    obtain ⟨i, hi, rfl⟩ := List.mem_map.mp hx
    have := hb i (List.mem_range.mp hi)
    rw [List.mem_range]
    omega
  have hlen := (hnodup.subperm hsub).length_le
  rwa [List.length_map, List.length_range, List.length_range] at hlen

/-! ## Adding -/

/-- **An element is put behind the last one.** -/
theorem Indexed.push (h : Indexed dense n index) (ha : index a = -1) :
    Indexed (Function.update dense n a) (n + 1) (Function.update index a n) := by
  have hno : ∀ i, i < n → dense i ≠ a := by
    intro i hi heq
    exact (h.inSet_iff a).mp ⟨i, hi, heq⟩ ha
  refine ⟨fun b i => ?_, fun b hb => ?_⟩
  · by_cases hba : b = a
    · subst hba
      rw [Function.update_self]
      constructor
      · intro hi
        have hin : i = n := by omega
        rw [hin, Function.update_self]
        exact ⟨Nat.lt_succ_self n, rfl⟩
      · intro ⟨hi, heq⟩
        by_cases hin : i = n
        · rw [hin]
        · rw [Function.update_of_ne hin] at heq
          exact absurd heq (hno i (by omega))
    · rw [Function.update_of_ne hba, h.inverse]
      constructor
      · intro ⟨hi, heq⟩
        rw [Function.update_of_ne (Nat.ne_of_lt hi)]
        exact ⟨Nat.lt_succ_of_lt hi, heq⟩
      · intro ⟨hi, heq⟩
        by_cases hin : i = n
        · rw [hin, Function.update_self] at heq
          exact absurd heq.symm hba
        · rw [Function.update_of_ne hin] at heq
          exact ⟨by omega, heq⟩
  · by_cases hba : b = a
    · rw [hba, Function.update_self] at hb
      exact absurd rfl (hb n)
    · rw [Function.update_of_ne hba] at hb ⊢
      exact h.absent b hb

omit [DecidableEq α] in
theorem inSet_push (dense : Nat → α) (n : Nat) (a b : α) :
    InSet (Function.update dense n a) (n + 1) b ↔ b = a ∨ InSet dense n b := by
  constructor
  · intro ⟨i, hi, heq⟩
    by_cases hin : i = n
    · rw [hin, Function.update_self] at heq
      exact .inl heq.symm
    · rw [Function.update_of_ne hin] at heq
      exact .inr ⟨i, by omega, heq⟩
  · intro hb
    rcases hb with rfl | ⟨i, hi, heq⟩
    · exact ⟨n, Nat.lt_succ_self n, Function.update_self ..⟩
    · refine ⟨i, Nat.lt_succ_of_lt hi, ?_⟩
      rw [Function.update_of_ne (Nat.ne_of_lt hi)]
      exact heq

/-! ## Removing -/

/-- **The last element is moved into the hole.** If it is the one removed, the
table ends up with -1 for it, because that is written last. -/
theorem Indexed.remove (h : Indexed dense n index) (hi : i < n) :
    Indexed (Function.update dense i (dense (n - 1))) (n - 1)
      (Function.update (Function.update index (dense (n - 1)) i) (dense i) (-1)) := by
  have hlast : n - 1 < n := by omega
  refine ⟨fun b j => ?_, fun b hb => ?_⟩
  · by_cases hbi : b = dense i
    · -- the removed element is nowhere
      subst hbi
      rw [Function.update_self]
      refine iff_of_false (by omega) fun ⟨hj, heq⟩ => ?_
      by_cases hji : j = i
      · rw [hji, Function.update_self] at heq
        have := h.inj hlast hi heq
        omega
      · rw [Function.update_of_ne hji] at heq
        exact hji (h.inj (by omega) hi heq)
    · rw [Function.update_of_ne hbi]
      by_cases hbl : b = dense (n - 1)
      · -- the last one is in the hole
        subst hbl
        rw [Function.update_self]
        constructor
        · intro hij
          have hji : j = i := by omega
          subst hji
          refine ⟨?_, Function.update_self ..⟩
          have hne : j ≠ n - 1 := fun heq => hbi (by rw [heq])
          omega
        · intro ⟨hj, heq⟩
          by_cases hji : j = i
          · rw [hji]
          · rw [Function.update_of_ne hji] at heq
            have := h.inj (by omega) hlast heq
            omega
      · rw [Function.update_of_ne hbl, h.inverse]
        constructor
        · intro ⟨hj, heq⟩
          have hji : j ≠ i := fun he => hbi (by rw [← heq, he])
          have hjl : j ≠ n - 1 := fun he => hbl (by rw [← heq, he])
          rw [Function.update_of_ne hji]
          exact ⟨by omega, heq⟩
        · intro ⟨hj, heq⟩
          by_cases hji : j = i
          · rw [hji, Function.update_self] at heq
            exact absurd heq.symm hbl
          · rw [Function.update_of_ne hji] at heq
            exact ⟨by omega, heq⟩
  · by_cases hbi : b = dense i
    · rw [hbi, Function.update_self]
    · rw [Function.update_of_ne hbi] at hb ⊢
      by_cases hbl : b = dense (n - 1)
      · rw [hbl, Function.update_self] at hb
        exact absurd rfl (hb i)
      · rw [Function.update_of_ne hbl] at hb ⊢
        exact h.absent b hb

/-- Exactly the element of the hole is gone. -/
theorem Indexed.inSet_remove (h : Indexed dense n index) (hi : i < n) (b : α) :
    InSet (Function.update dense i (dense (n - 1))) (n - 1) b ↔
      b ≠ dense i ∧ InSet dense n b := by
  rw [(h.remove hi).inSet_iff, h.inSet_iff]
  by_cases hbi : b = dense i
  · rw [hbi, Function.update_self]
    simp
  · rw [Function.update_of_ne hbi]
    by_cases hbl : b = dense (n - 1)
    · rw [hbl, Function.update_self, h.at (show n - 1 < n by omega)]
      rw [hbl] at hbi
      exact iff_of_true (by omega) ⟨hbi, by omega⟩
    · rw [Function.update_of_ne hbl]
      simp [hbi]

end

end Chamelio.Lib
