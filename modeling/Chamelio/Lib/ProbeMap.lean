import Mathlib.Data.Set.Card
import Chamelio.Lib.Probe

/-!
# An open-addressed table is a bounded map

`Lib.Probe` says how a key is found and where it is placed. Here the searches
go round the whole table (`Cycle`), and then a table of `n` buckets is a map
with room for `n` keys: a key is found exactly where some bucket holds it
(`Probed.found_iff`), placing one key moves no other (`Probed.probe_put`), and
a new key finds no place exactly in a table without an empty bucket
(`Probed.place_none_iff`), which is one with `n` keys (`Probed.full_iff`).
-/

namespace Chamelio.Lib

section

variable {κ : Type} {slot : κ → Nat → Nat} {keys : Nat → κ} {empty k k' : κ} {n b : Nat}

/-- Every key's sequence of buckets passes through all of them in `n` steps. -/
structure Cycle (slot : κ → Nat → Nat) (n : Nat) : Prop where
  lt : ∀ k j, slot k j < n
  onto : ∀ k b, b < n → ∃ j, j < n ∧ slot k j = b

/-- Linear probing is a cycle. -/
theorem Cycle.linear {hash : κ → Nat} (hslot : ∀ k j, slot k j = (hash k + j) % n) (hn : 0 < n) :
    Cycle slot n := by
  refine ⟨fun k j => ?_, fun k b hb => ?_⟩
  · rw [hslot]
    exact Nat.mod_lt _ hn
  · have hlt := Nat.mod_lt (hash k) hn
    -- as many steps as `b` is ahead of the hash, going round
    by_cases hle : hash k % n ≤ b
    · refine ⟨b - hash k % n, by omega, ?_⟩
      rw [hslot, Nat.add_mod, Nat.mod_eq_of_lt (a := b - hash k % n) (by omega),
        Nat.add_sub_cancel' hle, Nat.mod_eq_of_lt hb]
    · refine ⟨b + n - hash k % n, by omega, ?_⟩
      rw [hslot, Nat.add_mod, Nat.mod_eq_of_lt (a := b + n - hash k % n) (by omega),
        show hash k % n + (b + n - hash k % n) = b + n by omega, Nat.add_mod_right,
        Nat.mod_eq_of_lt hb]

variable [DecidableEq κ]

/-- A key has no place where all its buckets are taken by others. -/
theorem place_none_iff {slot : Nat → Nat} {i : Nat} :
    place slot keys empty k n i = none ↔
      ∀ j, i ≤ j → j < i + n → keys (slot j) ≠ empty ∧ keys (slot j) ≠ k := by
  induction n generalizing i with
  | zero =>
    refine ⟨fun _ j hij hj => ?_, fun _ => rfl⟩
    omega
  | succ n ih =>
    rw [place]
    split
    · next hc =>
      refine ⟨fun h => (by cases h), fun h => ?_⟩
      have := h i (Nat.le_refl i) (by omega)
      exact absurd hc (not_or.mpr this)
    · next hc =>
      rw [ih]
      refine ⟨fun h j hij hj => ?_, fun h j hij hj => h j (by omega) (by omega)⟩
      by_cases hji : j = i
      · rw [hji]
        exact not_or.mp hc
      · exact h j (by omega) (by omega)

/-- **A key is found exactly where a bucket holds it.** -/
theorem Probed.found_iff (h : Probed slot keys empty n) (hc : Cycle slot n) (hk : k ≠ empty) :
    probe (slot k) keys empty k n 0 = some b ↔ b < n ∧ keys b = k := by
  constructor
  · intro hp
    obtain ⟨hkey, j, -, -, hb⟩ := probe_some hp
    exact ⟨hb ▸ hc.lt k j, hkey⟩
  · intro ⟨hb, hkey⟩
    have := h b hb (by rw [hkey]; exact hk)
    rw [hkey] at this
    exact this

/-- **Placing one key moves no other.** -/
theorem Probed.probe_put (h : Probed slot keys empty n) (hc : Cycle slot n)
    (hk' : k' ≠ empty) (hne : k' ≠ k) (hp : place (slot k) keys empty k n 0 = some b) :
    probe (slot k') (putKey keys b k) empty k' n 0 = probe (slot k') keys empty k' n 0 := by
  refine Option.ext fun b' => ?_
  show _ = some b' ↔ _ = some b'
  rw [(h.put hp).found_iff hc hk', h.found_iff hc hk']
  by_cases hbb : b' = b
  · -- the bucket of `k` holds `k` now, and before it held `k` or nothing
    rw [hbb, show putKey keys b k b = k from if_pos rfl]
    refine and_congr_right fun _ => ⟨fun hkk => absurd hkk.symm hne, fun hkk => ?_⟩
    rcases (place_some hp).1 with he | he
    · exact absurd (hkk.symm.trans he) hk'
    · exact absurd (hkk.symm.trans he) hne
  · rw [show putKey keys b k b' = keys b' from if_neg hbb]

/-- A key that is placed is in one of the buckets. -/
theorem Cycle.place_lt (hc : Cycle slot n) (hp : place (slot k) keys empty k n 0 = some b) :
    b < n := by
  obtain ⟨-, j, -, -, hb⟩ := place_some hp
  exact hb ▸ hc.lt k j

/-- **A new key has no place exactly in a full table**, and a key that is
there always has one. -/
theorem Probed.place_none_iff (h : Probed slot keys empty n) (hc : Cycle slot n) (hk : k ≠ empty) :
    place (slot k) keys empty k n 0 = none ↔
      probe (slot k) keys empty k n 0 = none ∧ ∀ b, b < n → keys b ≠ empty := by
  rw [Lib.place_none_iff]
  constructor
  · intro hall
    refine ⟨?_, fun b hb => ?_⟩
    · cases hp : probe (slot k) keys empty k n 0 with
      | none => rfl
      | some b =>
        obtain ⟨hkey, j, hij, hj, hb⟩ := probe_some hp
        rw [hb] at hkey
        exact absurd hkey (hall j hij hj).2
    · obtain ⟨j, hj, hslot⟩ := hc.onto k b hb
      rw [← hslot]
      exact (hall j (Nat.zero_le j) (by omega)).1
  · intro ⟨hp, hfull⟩ j _ _
    refine ⟨hfull _ (hc.lt k j), fun hkey => ?_⟩
    rw [(h.found_iff hc hk).mpr ⟨hc.lt k j, hkey⟩] at hp
    cases hp

/-- The keys in the buckets. -/
def heldKeys (keys : Nat → κ) (empty : κ) (n : Nat) : Finset κ :=
  ((Finset.range n).filter (fun b => keys b ≠ empty)).image keys

theorem mem_heldKeys : k ∈ heldKeys keys empty n ↔ k ≠ empty ∧ ∃ b, b < n ∧ keys b = k := by
  unfold heldKeys
  rw [Finset.mem_image]
  constructor
  · intro ⟨b, hb, hkey⟩
    obtain ⟨hlt, hne⟩ := Finset.mem_filter.mp hb
    exact ⟨hkey ▸ hne, b, Finset.mem_range.mp hlt, hkey⟩
  · intro ⟨hne, b, hlt, hkey⟩
    exact ⟨b, Finset.mem_filter.mpr ⟨Finset.mem_range.mpr hlt, hkey ▸ hne⟩, hkey⟩

/-- No two buckets hold one key. -/
theorem Probed.bucket_inj (h : Probed slot keys empty n) {b b' : Nat} (hb : b < n) (hb' : b' < n)
    (hne : keys b ≠ empty) (heq : keys b = keys b') : b = b' := by
  have hp := h b hb hne
  have hp' := h b' hb' (heq ▸ hne)
  rw [← heq, hp] at hp'
  exact Option.some.inj hp'

/-- **A table without an empty bucket is one with `n` keys.** -/
theorem Probed.full_iff (h : Probed slot keys empty n) :
    (∀ b, b < n → keys b ≠ empty) ↔ (heldKeys keys empty n).card = n := by
  have hcard : (heldKeys keys empty n).card =
      ((Finset.range n).filter (fun b => keys b ≠ empty)).card := by
    refine Finset.card_image_of_injOn ?_
    intro b hb b' hb' heq
    obtain ⟨hlt, hne⟩ := Finset.mem_filter.mp hb
    obtain ⟨hlt', -⟩ := Finset.mem_filter.mp hb'
    exact h.bucket_inj (Finset.mem_range.mp hlt) (Finset.mem_range.mp hlt') hne heq
  rw [hcard]
  constructor
  · intro hfull
    rw [Finset.filter_true_of_mem (fun b hb => hfull b (Finset.mem_range.mp hb)),
      Finset.card_range]
  · intro hn b hb
    have hle : (Finset.range n).card ≤ ((Finset.range n).filter (fun b => keys b ≠ empty)).card := by
      rw [hn, Finset.card_range]
    have heq := Finset.eq_of_subset_of_card_le (Finset.filter_subset _ _) hle
    have hmem : b ∈ (Finset.range n).filter (fun b => keys b ≠ empty) := by
      rw [heq]
      exact Finset.mem_range.mpr hb
    exact (Finset.mem_filter.mp hmem).2

end

end Chamelio.Lib
