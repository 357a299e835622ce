/-!
# Open addressing without deletion

A table of keys in which a key is looked for along its own sequence of
buckets `slot k 0, slot k 1, ...`: a search stops at the key, at an empty
bucket, or after `n` steps, and a key is placed in the first bucket on its
sequence that is empty or already holds it. Since no bucket is ever emptied,
a search that finds a key finds it for ever (`probe_put_ne`), and what a
bucket holds a search finds (`Probed`).
-/

namespace Chamelio.Lib

section

variable {κ : Type} [DecidableEq κ]

/-- The bucket of `k`, searched in `n` steps from step `i` on. -/
def probe (slot : Nat → Nat) (keys : Nat → κ) (empty k : κ) : Nat → Nat → Option Nat
  | 0, _ => none
  | n + 1, i =>
    if keys (slot i) = k then some (slot i)
    else if keys (slot i) = empty then none
    else probe slot keys empty k n (i + 1)

/-- The bucket `k` is placed in. -/
def place (slot : Nat → Nat) (keys : Nat → κ) (empty k : κ) : Nat → Nat → Option Nat
  | 0, _ => none
  | n + 1, i =>
    if keys (slot i) = empty ∨ keys (slot i) = k then some (slot i)
    else place slot keys empty k n (i + 1)

/-- The keys with `k` in bucket `b`. -/
def putKey (keys : Nat → κ) (b : Nat) (k : κ) : Nat → κ := fun j => if j = b then k else keys j

variable {slot : Nat → Nat} {keys : Nat → κ} {empty k k' : κ} {b b' n i : Nat}

theorem probe_some (h : probe slot keys empty k n i = some b) :
    keys b = k ∧ ∃ j, i ≤ j ∧ j < i + n ∧ b = slot j := by
  induction n generalizing i with
  | zero => cases h
  | succ n ih =>
    rw [probe] at h
    split at h
    · next hk =>
      cases h
      exact ⟨hk, i, Nat.le_refl i, by omega, rfl⟩
    · split at h
      · cases h
      · obtain ⟨hk, j, hij, hjn, hb⟩ := ih h
        exact ⟨hk, j, by omega, by omega, hb⟩

theorem place_some (h : place slot keys empty k n i = some b) :
    (keys b = empty ∨ keys b = k) ∧ ∃ j, i ≤ j ∧ j < i + n ∧ b = slot j := by
  induction n generalizing i with
  | zero => cases h
  | succ n ih =>
    rw [place] at h
    split at h
    · next hk =>
      cases h
      exact ⟨hk, i, Nat.le_refl i, by omega, rfl⟩
    · obtain ⟨hk, j, hij, hjn, hb⟩ := ih h
      exact ⟨hk, j, by omega, by omega, hb⟩

/-- A key that is found is placed where it is found. -/
theorem place_of_probe (h : probe slot keys empty k n i = some b) :
    place slot keys empty k n i = some b := by
  induction n generalizing i with
  | zero => cases h
  | succ n ih =>
    rw [probe] at h
    rw [place]
    split at h
    · next hk => rw [if_pos (.inr hk), h]
    · next hk =>
      split at h
      · cases h
      · next he =>
        rw [if_neg (not_or.mpr ⟨he, hk⟩)]
        exact ih h

/-- A search for an empty bucket fails only where there is none. -/
theorem place_empty_none (h : probe slot keys empty empty n i = none) :
    place slot keys empty empty n i = none := by
  induction n generalizing i with
  | zero => rfl
  | succ n ih =>
    rw [probe] at h
    rw [place]
    by_cases hk : keys (slot i) = empty
    · rw [if_pos hk] at h
      cases h
    · rw [if_neg hk, if_neg hk] at h
      rw [if_neg (not_or.mpr ⟨hk, hk⟩)]
      exact ih h

/-- Placing a key makes it found. -/
theorem probe_put (h : place slot keys empty k n i = some b) :
    probe slot (putKey keys b k) empty k n i = some b := by
  induction n generalizing i with
  | zero => cases h
  | succ n ih =>
    rw [place] at h
    rw [probe]
    unfold putKey
    split at h
    · cases h
      rw [if_pos (if_pos rfl)]
    · next hc =>
      obtain ⟨he, hk⟩ := not_or.mp hc
      have hb := place_some h
      have hne : slot i ≠ b := by
        intro hs
        rw [← hs] at hb
        exact hc hb.1
      rw [if_neg hne, if_neg hk, if_neg he]
      exact ih h

/-- **A key that is found stays found** when another is placed. -/
theorem probe_put_ne (h : probe slot keys empty k n i = some b) (hk : k ≠ empty) (hne : k' ≠ k)
    (hb : keys b' = empty ∨ keys b' = k') :
    probe slot (putKey keys b' k') empty k n i = some b := by
  induction n generalizing i with
  | zero => cases h
  | succ n ih =>
    rw [probe] at h ⊢
    unfold putKey
    split at h
    · next hs =>
      have hsb : slot i ≠ b' := by
        intro heq
        rw [heq] at hs
        rcases hb with he | he
        · exact hk (hs.symm.trans he)
        · exact hne (he.symm.trans hs)
      rw [if_neg hsb, if_pos hs]
      exact h
    · next hs =>
      split at h
      · cases h
      · next he =>
        -- the bucket passed over is not the one filled, or held `k'` before
        have hskip : (if slot i = b' then k' else keys (slot i)) = keys (slot i) := by
          split
          · next heq =>
            rw [← heq] at hb
            exact (hb.resolve_left he).symm
          · rfl
        rw [hskip, if_neg hs, if_neg he]
        exact ih h

/-- A key that cannot be placed cannot be placed later. -/
theorem place_none_put (h : place slot keys empty k n i = none)
    (hb : keys b' = empty ∨ keys b' = k') :
    place slot (putKey keys b' k') empty k n i = none := by
  induction n generalizing i with
  | zero => rfl
  | succ n ih =>
    rw [place] at h ⊢
    split at h
    · cases h
    · next hc =>
      have hskip : putKey keys b' k' (slot i) = keys (slot i) := by
        unfold putKey
        split
        · next heq =>
          rw [← heq] at hb
          exact (hb.resolve_left (not_or.mp hc).1).symm
        · rfl
      rw [hskip, if_neg hc]
      exact ih h

end

/-! ## What a table holds is found -/

section

variable {κ : Type} [DecidableEq κ] {slot : κ → Nat → Nat} {keys : Nat → κ} {empty k : κ}
  {n b : Nat}

/-- Every key of the first `n` buckets is found where it is. -/
def Probed (slot : κ → Nat → Nat) (keys : Nat → κ) (empty : κ) (n : Nat) : Prop :=
  ∀ b, b < n → keys b ≠ empty → probe (slot (keys b)) keys empty (keys b) n 0 = some b

theorem Probed.put (h : Probed slot keys empty n)
    (hp : place (slot k) keys empty k n 0 = some b) :
    Probed slot (putKey keys b k) empty n := by
  intro b' hb' hne
  by_cases hbb : b' = b
  · have hkey : putKey keys b k b' = k := if_pos hbb
    rw [hkey, hbb]
    exact probe_put hp
  · have hkey : putKey keys b k b' = keys b' := if_neg hbb
    rw [hkey] at hne ⊢
    have hfound := h b' hb' hne
    by_cases hkk : k = keys b'
    · -- `k` is in the table already, and would have been placed there
      rw [← hkk] at hfound
      rw [place_of_probe hfound] at hp
      exact absurd (Option.some.inj hp) hbb
    · exact probe_put_ne hfound hne hkk (place_some hp).1

end

end Chamelio.Lib
