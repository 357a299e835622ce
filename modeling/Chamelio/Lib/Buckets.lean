import Mathlib.Data.List.Basic

/-!
# Hash tables with a fixed number of slots per bucket

A table maps a bucket and a slot to an entry or to `empty`. An entry is put
into the bucket its key hashes to and looked for there alone, so the table
answers correctly as long as every entry sits in the bucket of its key as
the key is now (`Placed.home`), and sits there once (`Placed.once`).
-/

namespace Chamelio.Lib

section

variable {ι : Type}

/-- The table with one slot written. -/
def putSlot (tbl : Nat → Nat → ι) (h s : Nat) (x : ι) : Nat → Nat → ι :=
  fun h' s' => if h' = h ∧ s' = s then x else tbl h' s'

/-- Some bucket holds `x`. -/
def Stored (tbl : Nat → Nat → ι) (n : Nat) (x : ι) : Prop := ∃ h s, s < n ∧ tbl h s = x

/-- Every entry is in the bucket of its key, once. -/
structure Placed (tbl : Nat → Nat → ι) (n : Nat) (empty : ι) (bucketOf : ι → Nat) : Prop where
  home : ∀ h s, s < n → tbl h s ≠ empty → bucketOf (tbl h s) = h
  once : ∀ h s h' s', s < n → s' < n → tbl h s ≠ empty → tbl h s = tbl h' s' → h = h' ∧ s = s'

theorem putSlot_self (tbl : Nat → Nat → ι) (h s : Nat) (x : ι) : putSlot tbl h s x h s = x :=
  if_pos ⟨rfl, rfl⟩

theorem putSlot_ne (tbl : Nat → Nat → ι) {h s h' s' : Nat} (x : ι) (hne : ¬(h' = h ∧ s' = s)) :
    putSlot tbl h s x h' s' = tbl h' s' := if_neg hne

variable {tbl : Nat → Nat → ι} {n : Nat} {empty : ι} {bucketOf : ι → Nat}

/-- What is held after a free slot was filled. -/
theorem stored_putSlot {h s : Nat} {x y : ι} (hlt : s < n) (hfree : tbl h s = empty)
    (hy : y ≠ empty) : Stored (putSlot tbl h s x) n y ↔ y = x ∨ Stored tbl n y := by
  constructor
  · rintro ⟨h', s', hlt', he⟩
    by_cases hat : h' = h ∧ s' = s
    · rw [hat.1, hat.2, putSlot_self] at he
      exact .inl he.symm
    · rw [putSlot_ne tbl x hat] at he
      exact .inr ⟨h', s', hlt', he⟩
  · rintro (hx | ⟨h', s', hlt', he⟩)
    · refine ⟨h, s, hlt, ?_⟩
      rw [putSlot_self, hx]
    · refine ⟨h', s', hlt', ?_⟩
      rw [putSlot_ne tbl x ?_, he]
      rintro ⟨rfl, rfl⟩
      exact hy (he.symm.trans hfree)

/-- A new entry goes into a free slot of its bucket. -/
theorem Placed.put (hp : Placed tbl n empty bucketOf) {h s : Nat} {x : ι} (hhome : bucketOf x = h)
    (hnew : ¬Stored tbl n x) :
    Placed (putSlot tbl h s x) n empty bucketOf := by
  -- an old entry is not the new one
  have hold : ∀ h' s', s' < n → ¬(h' = h ∧ s' = s) → putSlot tbl h s x h' s' ≠ x := by
    intro h' s' hlt hat he
    rw [putSlot_ne tbl x hat] at he
    exact hnew ⟨h', s', hlt, he⟩
  constructor
  · intro h' s' hlt hne
    by_cases hat : h' = h ∧ s' = s
    · rw [hat.1, hat.2, putSlot_self, hhome]
    · rw [putSlot_ne tbl x hat] at hne ⊢
      exact hp.home h' s' hlt hne
  · intro h₁ s₁ h₂ s₂ hlt₁ hlt₂ hne he
    by_cases hat₁ : h₁ = h ∧ s₁ = s
    · by_cases hat₂ : h₂ = h ∧ s₂ = s
      · exact ⟨hat₁.1.trans hat₂.1.symm, hat₁.2.trans hat₂.2.symm⟩
      · rw [hat₁.1, hat₁.2, putSlot_self] at he
        exact absurd he.symm (hold h₂ s₂ hlt₂ hat₂)
    · by_cases hat₂ : h₂ = h ∧ s₂ = s
      · rw [hat₂.1, hat₂.2, putSlot_self] at he
        exact absurd he (hold h₁ s₁ hlt₁ hat₁)
      · rw [putSlot_ne tbl x hat₁] at hne he
        rw [putSlot_ne tbl x hat₂] at he
        exact hp.once h₁ s₁ h₂ s₂ hlt₁ hlt₂ hne he

/-- Only the keys of entries in the table matter. -/
theorem Placed.congr {bucketOf' : ι → Nat} (hp : Placed tbl n empty bucketOf)
    (hb : ∀ x, x ≠ empty → Stored tbl n x → bucketOf' x = bucketOf x) :
    Placed tbl n empty bucketOf' := by
  refine ⟨?_, hp.once⟩
  intro h s hlt hne
  rw [hb _ hne ⟨h, s, hlt, rfl⟩]
  exact hp.home h s hlt hne

/-- **Lookup.** A search of the bucket of `x` for an entry that passes a test
finds `x` when `x` is the one entry of the table that passes. -/
theorem Placed.lookup {β : Type} (hp : Placed tbl n empty bucketOf) {x : ι} {test : ι → Option β}
    {b : β} (hx : x ≠ empty) (hin : Stored tbl n x) (htest : test x = some b)
    (hempty : test empty = none)
    (honly : ∀ y c, y ≠ empty → Stored tbl n y → test y = some c → c = b) :
    (List.range n).findSome? (fun s => test (tbl (bucketOf x) s)) = some b := by
  obtain ⟨h, s, hlt, he⟩ := hin
  have hh := hp.home h s hlt (by rw [he]; exact hx)
  rw [he] at hh
  cases hf : (List.range n).findSome? (fun s => test (tbl (bucketOf x) s)) with
  | none =>
    have := List.findSome?_eq_none_iff.mp hf s (List.mem_range.mpr hlt)
    rw [hh, he, htest] at this
    cases this
  | some c =>
    obtain ⟨s', hmem, hc⟩ := List.exists_of_findSome?_eq_some hf
    have hne : tbl (bucketOf x) s' ≠ empty := by
      intro h0
      rw [h0, hempty] at hc
      cases hc
    rw [honly _ c hne ⟨_, s', List.mem_range.mp hmem, rfl⟩ hc]

end

/-! ## Removal -/

section removal

variable {ι : Type} [DecidableEq ι]

/-- The first of `n` slots of a bucket that holds `x`. -/
def slotOf (tbl : Nat → Nat → ι) (n h : Nat) (x : ι) : Option Nat :=
  (List.range n).find? (fun s => tbl h s == x)

/-- The table with `x` taken out of bucket `h`. -/
def dropSlot (tbl : Nat → Nat → ι) (n : Nat) (empty : ι) (h : Nat) (x : ι) : Nat → Nat → ι :=
  match slotOf tbl n h x with
  | none => tbl
  | some s => putSlot tbl h s empty

variable {tbl : Nat → Nat → ι} {n : Nat} {empty : ι} {bucketOf : ι → Nat}

theorem slotOf_eq_some {h s : Nat} {x : ι} (hs : slotOf tbl n h x = some s) :
    s < n ∧ tbl h s = x := by
  have hx := List.find?_some hs
  exact ⟨List.mem_range.mp (List.mem_of_find?_eq_some hs), eq_of_beq hx⟩

theorem slotOf_eq_none {h s : Nat} {x : ι} (hs : slotOf tbl n h x = none) (hlt : s < n) :
    tbl h s ≠ x := by
  intro hx
  have := List.find?_eq_none.mp hs s (List.mem_range.mpr hlt)
  rw [hx, beq_self_eq_true] at this
  exact this rfl

/-- Taking an entry out of its bucket takes it out of the table. -/
theorem stored_dropSlot (hp : Placed tbl n empty bucketOf) {x y : ι} (hx : x ≠ empty)
    (hy : y ≠ empty) :
    Stored (dropSlot tbl n empty (bucketOf x) x) n y ↔ Stored tbl n y ∧ y ≠ x := by
  unfold dropSlot
  cases hs : slotOf tbl n (bucketOf x) x with
  | none =>
    dsimp only
    refine ⟨?_, fun h => h.1⟩
    rintro ⟨h', s', hlt, he⟩
    refine ⟨⟨h', s', hlt, he⟩, ?_⟩
    rintro rfl
    have hh := hp.home h' s' hlt (by rw [he]; exact hy)
    rw [he] at hh
    rw [hh] at hs
    exact slotOf_eq_none hs hlt he
  | some s =>
    obtain ⟨hlt, he⟩ := slotOf_eq_some hs
    dsimp only
    constructor
    · rintro ⟨h', s', hlt', he'⟩
      by_cases hat : h' = bucketOf x ∧ s' = s
      · rw [hat.1, hat.2, putSlot_self] at he'
        exact absurd he'.symm hy
      · rw [putSlot_ne tbl empty hat] at he'
        refine ⟨⟨h', s', hlt', he'⟩, ?_⟩
        rintro rfl
        have := hp.once h' s' (bucketOf y) s hlt' hlt (by rw [he']; exact hy) (he'.trans he.symm)
        exact hat this
    · rintro ⟨⟨h', s', hlt', he'⟩, hne⟩
      refine ⟨h', s', hlt', ?_⟩
      rw [putSlot_ne tbl empty ?_, he']
      rintro ⟨rfl, rfl⟩
      exact hne (he'.symm.trans he)

theorem Placed.drop (hp : Placed tbl n empty bucketOf) (h : Nat) (x : ι) :
    Placed (dropSlot tbl n empty h x) n empty bucketOf := by
  unfold dropSlot
  cases slotOf tbl n h x with
  | none => exact hp
  | some s =>
    dsimp only
    have hold : ∀ h' s', putSlot tbl h s empty h' s' ≠ empty →
        putSlot tbl h s empty h' s' = tbl h' s' := by
      intro h' s' hne
      by_cases hat : h' = h ∧ s' = s
      · rw [hat.1, hat.2, putSlot_self] at hne
        exact absurd rfl hne
      · exact putSlot_ne tbl empty hat
    constructor
    · intro h' s' hlt hne
      have he := hold h' s' hne
      rw [he] at hne ⊢
      exact hp.home h' s' hlt hne
    · intro h₁ s₁ h₂ s₂ hlt₁ hlt₂ hne he
      have hne₂ : putSlot tbl h s empty h₂ s₂ ≠ empty := by rw [← he]; exact hne
      have he₁ := hold h₁ s₁ hne
      rw [he₁] at hne he
      rw [hold h₂ s₂ hne₂] at he
      exact hp.once h₁ s₁ h₂ s₂ hlt₁ hlt₂ hne he

end removal

end Chamelio.Lib
