import Chamelio.Lib.Ring

/-!
# Numbered slots of a ring

A ring of `n` slots of `e` bytes seen from two endless counters: the slot of
message number `k` starts at byte `e * (k % n)`. Slots of numbers less than
`n` apart do not overlap, and the usual "advance, and start over at the end"
goes from the slot of `k` to the slot of `k + 1`.
-/

namespace Chamelio.Lib

/-- First byte of the slot of message number `k`. -/
def slotAt (e n k : Nat) : Nat := e * (k % n)

theorem slotAt_zero (e n : Nat) : slotAt e n 0 = 0 := by
  unfold slotAt
  rw [Nat.zero_mod, Nat.mul_zero]

/-- Every slot ends inside the ring. -/
theorem slotAt_fits {e n k : Nat} (hn : 0 < n) : slotAt e n k + e ≤ e * n := by
  unfold slotAt
  have h : k % n + 1 ≤ n := Nat.mod_lt k hn
  calc e * (k % n) + e = e * (k % n + 1) := (Nat.mul_succ e (k % n)).symm
    _ ≤ e * n := Nat.mul_le_mul_left e h

/-- Numbers less than `n` apart have different slot indices. -/
theorem mod_ne_of_near {n k k' : Nat} (h : k < k') (hn : k' < k + n) : k % n ≠ k' % n := by
  intro heq
  have h₁ := Nat.div_add_mod k n
  have h₂ := Nat.div_add_mod k' n
  rw [← heq] at h₂
  -- the difference is a multiple of n, and lies strictly between 0 and n
  have hd : n * (k' / n) = n * (k / n) + (k' - k) := by omega
  have hle : k / n < k' / n := by
    apply Nat.lt_of_mul_lt_mul_left (a := n)
    omega
  have hge : n * (k / n + 1) ≤ n * (k' / n) := Nat.mul_le_mul_left n hle
  rw [Nat.mul_succ] at hge
  omega

/-- Different slot indices are disjoint ranges of bytes. -/
theorem slot_bytes_ne {e i j x y : Nat} (hij : i ≠ j) (hx : x < e) (hy : y < e) :
    e * i + x ≠ e * j + y := by
  intro heq
  rcases Nat.lt_or_gt_of_ne hij with h | h
  · have := Nat.mul_le_mul_left e (show i + 1 ≤ j from h)
    rw [Nat.mul_succ] at this
    omega
  · have := Nat.mul_le_mul_left e (show j + 1 ≤ i from h)
    rw [Nat.mul_succ] at this
    omega

/-- Bytes of the slots of two near numbers are different. -/
theorem slotAt_ne {e n k k' x y : Nat} (h : k < k') (hn : k' < k + n) (hx : x < e)
    (hy : y < e) : slotAt e n k + x ≠ slotAt e n k' + y :=
  slot_bytes_ne (mod_ne_of_near h hn) hx hy

/-- Advance by one slot and start over at the end. -/
theorem slotAt_succ {e n k : Nat} (he : 0 < e) (hn : 0 < n) :
    (if e * n ≤ slotAt e n k + e then 0 else slotAt e n k + e) = slotAt e n (k + 1) := by
  have hlt := Nat.mod_lt k hn
  unfold slotAt
  by_cases hwrap : k % n + 1 = n
  · have hmod : (k + 1) % n = 0 := by
      rw [Nat.add_mod_eq_ite]
      have h1 : 1 % n ≤ 1 := Nat.mod_le 1 n
      by_cases hn1 : n = 1
      · subst hn1
        split <;> omega
      · rw [Nat.mod_eq_of_lt (show 1 < n by omega), if_pos (by omega)]
        omega
    rw [hmod, Nat.mul_zero, if_pos]
    rw [← Nat.mul_succ]
    exact Nat.mul_le_mul_left e (by omega)
  · have hmod : (k + 1) % n = k % n + 1 := by
      rw [Nat.add_mod_eq_ite, Nat.mod_eq_of_lt (show 1 < n by omega), if_neg (by omega)]
    rw [hmod, Nat.mul_succ, if_neg]
    rw [← Nat.mul_succ, Nat.not_le]
    exact Nat.mul_lt_mul_of_pos_left (by omega) he

end Chamelio.Lib
