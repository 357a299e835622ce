/-!
# Owners of heap blocks

A heap that hands out fresh blocks and remembers whether a block was freed
that was not live, and places that own blocks: `own k` is the block that `k`
owns. `Owns` says that every owned block is live and owned once. It is kept
by an allocation into an empty place, by freeing what a place owns and by
moving a block from one place to another.
-/

namespace Chamelio.Lib

structure Mheap where
  /-- The next block that is handed out. -/
  next : Nat
  live : Nat → Bool
  /-- Some block was freed that was not live. -/
  misfreed : Bool

namespace Mheap

def malloc (h : Mheap) : Mheap × Nat :=
  ({ h with next := h.next + 1, live := fun p => if p = h.next then true else h.live p }, h.next)

def free (h : Mheap) (p : Nat) : Mheap :=
  { h with
    live := fun q => if q = p then false else h.live q
    misfreed := h.misfreed || !h.live p }

end Mheap

section

variable {κ : Type} [DecidableEq κ]

def setOwner (own : κ → Option Nat) (k : κ) (p : Option Nat) : κ → Option Nat :=
  fun k' => if k' = k then p else own k'

structure Owns (h : Mheap) (own : κ → Option Nat) : Prop where
  fresh : ∀ p, h.live p = true → p < h.next
  held : ∀ k p, own k = some p → h.live p = true
  single : ∀ k k' p, own k = some p → own k' = some p → k = k'
  clean : h.misfreed = false

variable {h : Mheap} {own : κ → Option Nat}

/-- A fresh block for a place that owns nothing. -/
theorem Owns.malloc (hown : Owns h own) (k : κ) :
    Owns h.malloc.1 (setOwner own k (some h.malloc.2)) := by
  -- no place owns the fresh block yet
  have hnew : ∀ k', own k' ≠ some h.next := by
    intro k' hk'
    exact Nat.lt_irrefl _ (hown.fresh h.next (hown.held k' h.next hk'))
  unfold Mheap.malloc setOwner
  refine ⟨?_, ?_, ?_, hown.clean⟩
  · intro p hp
    dsimp only at hp ⊢
    split at hp
    · omega
    · exact Nat.lt_succ_of_lt (hown.fresh p hp)
  · intro k' p hp
    dsimp only at hp ⊢
    split at hp
    · cases hp
      rw [if_pos rfl]
    · split
      · rfl
      · exact hown.held k' p hp
  · intro k₁ k₂ p h₁ h₂
    dsimp only at h₁ h₂
    split at h₁
    · next hk₁ =>
      split at h₂
      · next hk₂ => rw [hk₁, hk₂]
      · exact absurd (h₂.trans h₁.symm) (hnew k₂)
    · split at h₂
      · exact absurd (h₁.trans h₂.symm) (hnew k₁)
      · exact hown.single k₁ k₂ p h₁ h₂

/-- A place gives up its block, which is freed. -/
theorem Owns.free (hown : Owns h own) {k : κ} {p : Nat} (hk : own k = some p) :
    Owns (h.free p) (setOwner own k none) := by
  unfold Mheap.free setOwner
  refine ⟨?_, ?_, ?_, ?_⟩
  · intro q hq
    dsimp only at hq
    split at hq
    · cases hq
    · exact hown.fresh q hq
  · intro k' q hq
    dsimp only at hq ⊢
    split at hq
    · cases hq
    · next hne =>
      split
      · next heq =>
        -- the block has one owner
        rw [heq] at hq
        exact absurd (hown.single k' k p hq hk) hne
      · exact hown.held k' q hq
  · intro k₁ k₂ q h₁ h₂
    split at h₁
    · cases h₁
    · split at h₂
      · cases h₂
      · exact hown.single k₁ k₂ q h₁ h₂
  · show (h.misfreed || !h.live p) = false
    rw [hown.clean, hown.held k p hk]
    rfl

/-- The block of one place becomes that of another, which owned nothing. -/
theorem Owns.move (hown : Owns h own) {k k' : κ} :
    Owns h (setOwner (setOwner own k' (own k)) k none) := by
  unfold setOwner
  refine ⟨hown.fresh, ?_, ?_, hown.clean⟩
  · intro i p hi
    split at hi
    · cases hi
    · split at hi
      · exact hown.held k p hi
      · exact hown.held i p hi
  · intro i j p hi hj
    split at hi
    · cases hi
    · next hik =>
      split at hj
      · cases hj
      · next hjk =>
        split at hi
        · next hi' =>
          split at hj
          · next hj' => rw [hi', hj']
          · exact absurd (hown.single k j p hi hj).symm hjk
        · split at hj
          · exact absurd (hown.single i k p hi hj) hik
          · exact hown.single i j p hi hj

omit [DecidableEq κ] in
/-- Places may be looked at in part. -/
theorem Owns.comap {ι : Type} (hown : Owns h own) {f : ι → κ}
    (hf : ∀ i j, f i = f j → i = j) : Owns h fun i => own (f i) :=
  ⟨hown.fresh, fun i p hi => hown.held (f i) p hi,
    fun i j p hi hj => hf i j (hown.single (f i) (f j) p hi hj), hown.clean⟩

end

end Chamelio.Lib
