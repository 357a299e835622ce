import Mathlib.Algebra.GroupWithZero.Nat

/-!
# Regions of an address range

A region is an offset and a length. Families of regions are compared by how
often they cover a byte: an allocator that splits and merges blocks keeps
the sum of all coverages, and a family that covers no byte twice is
pairwise disjoint. Empty regions need no special case, they cover nothing.
-/

namespace Chamelio.Lib

/-- The bytes `off, …, off + len - 1`. -/
structure Region where
  off : Nat
  len : Nat
  deriving DecidableEq, Repr

namespace Region

/-- The byte `x` lies in the region. -/
def Mem (r : Region) (x : Nat) : Prop := r.off ≤ x ∧ x < r.off + r.len

/-- No byte lies in both. -/
def Disjoint (r s : Region) : Prop := ∀ x, ¬ (r.Mem x ∧ s.Mem x)

/-- Every byte of `r` is a byte of `s`. -/
def Sub (r s : Region) : Prop := ∀ x, r.Mem x → s.Mem x

/-- One for the bytes of the region, zero for all others. -/
def hits (r : Region) (x : Nat) : Nat := if r.off ≤ x ∧ x < r.off + r.len then 1 else 0

/-- A region is cut into two at any of its bytes. -/
theorem hits_cut {off len m : Nat} (h : m ≤ len) (x : Nat) :
    hits ⟨off, len⟩ x = hits ⟨off, m⟩ x + hits ⟨off + m, len - m⟩ x := by
  unfold hits
  dsimp only
  by_cases h₁ : off ≤ x ∧ x < off + m
  · rw [if_pos h₁, if_pos (by omega), if_neg (by omega)]
  · rw [if_neg h₁]
    by_cases h₂ : off + m ≤ x ∧ x < off + m + (len - m)
    · rw [if_pos h₂, if_pos (by omega)]
    · rw [if_neg h₂, if_neg (by omega)]

/-- How many regions of the family contain the byte `x`. -/
def cover (l : List Region) (x : Nat) : Nat := (l.map fun r => r.hits x).sum

@[simp] theorem cover_nil (x : Nat) : cover [] x = 0 := rfl

@[simp] theorem cover_cons (r : Region) (l : List Region) (x : Nat) :
    cover (r :: l) x = r.hits x + cover l x := by
  simp [cover]

theorem cover_append (l l' : List Region) (x : Nat) :
    cover (l ++ l') x = cover l x + cover l' x := by
  simp [cover]

theorem hits_mem {r : Region} {x : Nat} (h : r.Mem x) : r.hits x = 1 := if_pos h

theorem cover_pos {l : List Region} {r : Region} {x : Nat} (hr : r ∈ l) (hx : r.Mem x) :
    0 < cover l x := by
  induction l with
  | nil => cases hr
  | cons s l ih =>
    rw [cover_cons]
    rcases List.mem_cons.mp hr with rfl | hr
    · rw [hits_mem hx]; omega
    · have := ih hr; omega

/-- A byte that is covered lies in one of the regions. -/
theorem mem_of_cover {l : List Region} {x : Nat} (h : 0 < cover l x) : ∃ r ∈ l, r.Mem x := by
  induction l with
  | nil => simp at h
  | cons r l ih =>
    by_cases hr : r.Mem x
    · exact ⟨r, List.mem_cons_self, hr⟩
    · have hzero : r.hits x = 0 := if_neg hr
      rw [cover_cons, hzero] at h
      obtain ⟨s, hs, hx⟩ := ih (by omega)
      exact ⟨s, List.mem_cons_of_mem r hs, hx⟩

/-- A family that covers no byte twice is pairwise disjoint. -/
theorem pairwise_of_cover {l : List Region} (h : ∀ x, cover l x ≤ 1) :
    l.Pairwise Disjoint := by
  induction l with
  | nil => exact List.Pairwise.nil
  | cons r l ih =>
    refine List.Pairwise.cons ?_ (ih fun x => ?_)
    · intro s hs x hx
      have h₁ := h x
      have h₂ := cover_pos hs hx.2
      rw [cover_cons, hits_mem hx.1] at h₁
      omega
    · have h₁ := h x
      rw [cover_cons] at h₁
      omega

/-- The regions lie below `len` and are pairwise disjoint. -/
structure Confined (len : Nat) (l : List Region) : Prop where
  inside : ∀ r ∈ l, r.off + r.len ≤ len
  disjoint : l.Pairwise Disjoint

end Region

end Chamelio.Lib
