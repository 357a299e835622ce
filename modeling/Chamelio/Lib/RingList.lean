import Mathlib.Data.List.Basic
import Chamelio.Lib.Slots

/-!
# A queue in a ring of cells

`RingList empty cells len head q`: the ring of `len` cells holds the queue
`q` from cell `head` on, and `empty` elsewhere. And counting: how the number
of indices below `n` with a property moves when the property changes at one
index.
-/

namespace Chamelio.Lib

section ring

variable {α : Type}

/-- The queue `q` starts at cell `head`; every other cell is empty. -/
structure RingList (empty : α) (cells : Nat → α) (len head : Nat) (q : List α) : Prop where
  fits : q.length ≤ len
  start : head < len ∨ len = 0
  cell : ∀ j x, q[j]? = some x → cells ((head + j) % len) = x
  rest : ∀ pos, pos < len → cells pos = empty ∨ ∃ j, j < q.length ∧ pos = (head + j) % len

theorem RingList.nil (empty : α) (len : Nat) : RingList empty (fun _ => empty) len 0 [] := by
  refine ⟨Nat.zero_le _, by omega, ?_, fun _ _ => .inl rfl⟩
  intro j x h
  rw [List.getElem?_nil] at h
  cases h

variable {empty : α} {cells : Nat → α} {len head : Nat} {q : List α}

/-- Cells of two places in the queue differ. -/
theorem ring_cell_ne {i j : Nat} (hi : i < len) (hj : j < len) (hne : i ≠ j) :
    (head + i) % len ≠ (head + j) % len := by
  rcases Nat.lt_or_gt_of_ne hne with h | h
  · exact mod_ne_of_near (by omega) (by omega)
  · exact (mod_ne_of_near (by omega) (by omega)).symm

/-- Appending at the first free cell. -/
theorem RingList.push (h : RingList empty cells len head q) (x : α) (hroom : q.length < len) :
    RingList empty (fun c => if c = (head + q.length) % len then x else cells c) len head
      (q ++ [x]) := by
  refine ⟨?_, h.start, ?_, ?_⟩
  · rw [List.length_append, List.length_singleton]
    exact hroom
  · intro j y hj
    by_cases hlt : j < q.length
    · rw [List.getElem?_append_left hlt] at hj
      rw [if_neg (ring_cell_ne (Nat.lt_of_lt_of_le hlt h.fits) hroom (Nat.ne_of_lt hlt))]
      exact h.cell j y hj
    · obtain ⟨hjlt, -⟩ := List.getElem?_eq_some_iff.mp hj
      rw [List.length_append, List.length_singleton] at hjlt
      obtain rfl : j = q.length := by omega
      rw [List.getElem?_append_right (Nat.le_refl _), Nat.sub_self] at hj
      rw [if_pos rfl]
      exact Option.some.inj hj
  · intro pos hpos
    rw [List.length_append, List.length_singleton]
    by_cases he : pos = (head + q.length) % len
    · exact .inr ⟨q.length, Nat.lt_succ_self _, he⟩
    · rw [if_neg he]
      rcases h.rest pos hpos with hr | ⟨j, hj, hr⟩
      · exact .inl hr
      · exact .inr ⟨j, Nat.lt_succ_of_lt hj, hr⟩

/-- Taking the first element. -/
theorem RingList.pop {x : α} (h : RingList empty cells len head (x :: q)) :
    cells head = x ∧
      RingList empty (fun c => if c = head then empty else cells c) len ((head + 1) % len) q := by
  have hlen := h.fits
  rw [List.length_cons] at hlen
  have hlt : head < len := by
    rcases h.start with hh | hh
    · exact hh
    · omega
  have hfirst := h.cell 0 x rfl
  rw [Nat.add_zero, Nat.mod_eq_of_lt hlt] at hfirst
  have hshift : ∀ j, ((head + 1) % len + j) % len = (head + (j + 1)) % len := by
    intro j
    rw [Nat.mod_add_mod]
    congr 1
    omega
  have hne : ∀ j, j + 1 < len → (head + (j + 1)) % len ≠ head := by
    intro j hj
    have hcell := @ring_cell_ne len head (j + 1) 0 hj (by omega) (by omega)
    rw [show (head + 0) % len = head from Nat.mod_eq_of_lt hlt] at hcell
    exact hcell
  refine ⟨hfirst, by omega, .inl (Nat.mod_lt _ (by omega)), ?_, ?_⟩
  · intro j y hj
    obtain ⟨hjlt, -⟩ := List.getElem?_eq_some_iff.mp hj
    rw [hshift, if_neg (hne j (by omega))]
    exact h.cell (j + 1) y hj
  · intro pos hpos
    by_cases he : pos = head
    · rw [if_pos he]
      exact .inl rfl
    · rw [if_neg he]
      rcases h.rest pos hpos with hr | ⟨j, hj, hr⟩
      · exact .inl hr
      · cases j with
        | zero =>
          rw [Nat.add_zero, Nat.mod_eq_of_lt hlt] at hr
          exact absurd hr he
        | succ j =>
          rw [List.length_cons] at hj
          refine .inr ⟨j, by omega, ?_⟩
          rw [hshift]
          exact hr

/-- What is not in the queue is in no cell. -/
theorem RingList.absent (h : RingList empty cells len head q) {x : α} (hx : x ≠ empty)
    (hq : x ∉ q) {pos : Nat} (hpos : pos < len) : cells pos ≠ x := by
  rcases h.rest pos hpos with hr | ⟨j, hj, hr⟩
  · rw [hr]
    exact hx.symm
  · have hj' : q[j]? = some (q.get ⟨j, hj⟩) := List.getElem?_eq_getElem hj
    rw [hr, h.cell j _ hj']
    rintro rfl
    exact hq (List.get_mem q ⟨j, hj⟩)

/-- Emptying the first cell that holds `x`, where `x` is in the queue once at
most. -/
theorem RingList.erase [DecidableEq α] (h : RingList empty cells len head q) {x : α}
    (hx : x ≠ empty) (honce : ∀ i j : Nat, q[i]? = some x → q[j]? = some x → i = j) :
    RingList empty
      (match (List.range len).find? (fun c => cells c == x) with
        | none => cells
        | some c => fun j => if j = c then empty else cells j)
      len head (q.map (fun y => if y = x then empty else y)) := by
  have hcell : ∀ (j : Nat) y, q[j]? = some y → cells ((head + j) % len) = y := h.cell
  have hmod : ∀ j, j < q.length → (head + j) % len < len := by
    intro j hj
    have hfits := h.fits
    exact Nat.mod_lt _ (by omega)
  have hget : ∀ j : Nat, j < q.length → ∃ y, q[j]? = some y :=
    fun j hj => ⟨_, List.getElem?_eq_getElem hj⟩
  cases hfind : (List.range len).find? (fun c => cells c == x) with
  | none =>
    -- No cell holds `x`, so it is not in the queue.
    have hno : ∀ y ∈ q, y ≠ x := by
      rintro y hy rfl
      obtain ⟨j, hj⟩ := List.mem_iff_getElem?.mp hy
      obtain ⟨hlt, -⟩ := List.getElem?_eq_some_iff.mp hj
      have hne := List.find?_eq_none.mp hfind _ (List.mem_range.mpr (hmod j hlt))
      exact hne (beq_iff_eq.mpr (hcell j y hj))
    have hmap : q.map (fun y => if y = x then empty else y) = q := by
      have hid : q.map (fun y => if y = x then empty else y) = q.map id :=
        List.map_congr_left (fun y hy => if_neg (hno y hy))
      rw [hid, List.map_id]
    rw [hmap]
    exact h
  | some c =>
    have hfound := List.find?_some hfind
    have hc : cells c = x := beq_iff_eq.mp hfound
    have hclt : c < len := List.mem_range.mp (List.mem_of_find?_eq_some hfind)
    obtain ⟨i, hi, hci⟩ : ∃ i, i < q.length ∧ c = (head + i) % len := by
      rcases h.rest c hclt with he | he
      · exact absurd (hc.symm.trans he) hx
      · exact he
    have hqi : q[i]? = some x := by
      obtain ⟨y, hy⟩ := hget i hi
      rw [hy, ← hcell i y hy, ← hci, hc]
    dsimp only
    refine ⟨by rw [List.length_map]; exact h.fits, h.start, ?_, ?_⟩
    · intro j y hj
      rw [List.getElem?_map, Option.map_eq_some_iff] at hj
      obtain ⟨z, hz, rfl⟩ := hj
      obtain ⟨hjlt, -⟩ := List.getElem?_eq_some_iff.mp hz
      by_cases hji : j = i
      · rw [hji] at hz ⊢
        rw [if_pos hci.symm, if_pos (Option.some.inj (hz.symm.trans hqi))]
      · have hfits := h.fits
        have hne : (head + j) % len ≠ c := by
          rw [hci]
          exact ring_cell_ne (by omega) (by omega) hji
        have hzx : z ≠ x := by
          rintro rfl
          exact hji (honce j i hz hqi)
        rw [if_neg hne, if_neg hzx]
        exact hcell j z hz
    · intro pos hpos
      by_cases hpc : pos = c
      · rw [if_pos hpc]
        exact .inl rfl
      · rw [if_neg hpc, List.length_map]
        exact h.rest pos hpos

end ring

section counting

/-- Indices below `n` with the property. -/
def countBelow (n : Nat) (p : Nat → Bool) : Nat := (List.range n).countP p

theorem countBelow_congr {n : Nat} {p q : Nat → Bool} (h : ∀ i, i < n → q i = p i) :
    countBelow n q = countBelow n p := by
  apply List.countP_congr
  intro i hi
  rw [h i (List.mem_range.mp hi)]

theorem countBelow_succ (n : Nat) (p : Nat → Bool) :
    countBelow (n + 1) p = countBelow n p + if p n then 1 else 0 := by
  unfold countBelow
  rw [List.range_succ, List.countP_append, List.countP_singleton]

/-- The property is lost at one index. -/
theorem countBelow_drop {n i : Nat} {p q : Nat → Bool} (hi : i < n) (hp : p i = true)
    (hq : q i = false) (h : ∀ j, j < n → j ≠ i → q j = p j) :
    countBelow n p = countBelow n q + 1 := by
  induction n with
  | zero => exact absurd hi (Nat.not_lt_zero i)
  | succ n ih =>
    rw [countBelow_succ, countBelow_succ]
    by_cases hin : i = n
    · have hc : countBelow n q = countBelow n p :=
        countBelow_congr (fun j hj => h j (by omega) (by omega))
      rw [← hin, hp, hq, hin, hc]
      rfl
    · rw [ih (by omega) (fun j hj hne => h j (by omega) hne), h n (Nat.lt_succ_self n) (by omega)]
      omega

theorem countBelow_zero {n : Nat} {p : Nat → Bool} (h : ∀ i, i < n → p i = false) :
    countBelow n p = 0 := by
  rw [countBelow_congr (q := p) (p := fun _ => false) h]
  unfold countBelow
  rw [List.countP_false]
  rfl

theorem countBelow_mono {n : Nat} {p q : Nat → Bool} (h : ∀ i, i < n → p i = true → q i = true) :
    countBelow n p ≤ countBelow n q := by
  apply List.countP_mono_left
  intro i hi hp
  exact h i (List.mem_range.mp hi) hp

/-- One index more makes the difference. -/
theorem countBelow_lt {n i : Nat} {p q : Nat → Bool} (h : ∀ i, i < n → p i = true → q i = true)
    (hi : i < n) (hq : q i = true) (hp : p i = false) : countBelow n p < countBelow n q := by
  have hdrop := @countBelow_drop n i q (fun j => if j = i then false else q j) hi hq
    (if_pos rfl) (fun j _ hne => if_neg hne)
  have hle : countBelow n p ≤ countBelow n (fun j => if j = i then false else q j) := by
    apply countBelow_mono
    intro j hj hpj
    have hne : j ≠ i := by
      rintro rfl
      rw [hp] at hpj
      cases hpj
    rw [if_neg hne]
    exact h j hj hpj
  omega

end counting

end Chamelio.Lib
