import Mathlib.Data.Nat.Basic
import Mathlib.Order.MinMax
import Mathlib.Tactic.Ring

/-!
# Averages and steps of bounded counters

Integer arithmetic that control loops do on counters of a fixed width: the
average of two values by integer weights, rounded down, scaling by a fraction
of the largest value, and steps that stop at the largest value. Over the
naturals each of them is a statement about the exact values. A machine
computes these where its own sums and products do not overflow, which for
32-bit values in 64 bits is the last section.
-/

namespace Chamelio.Lib

/-- The average of `x` and `y` by weights `w` and `v`, rounded down. -/
def weightedAvg (w v x y : Nat) : Nat := (w * x + v * y) / (w + v)

/-- An average is not below both. -/
theorem min_le_weightedAvg {w v : Nat} (hw : 0 < w + v) (x y : Nat) :
    min x y ≤ weightedAvg w v x y := by
  unfold weightedAvg
  rw [Nat.le_div_iff_mul_le hw]
  have hx : w * min x y ≤ w * x := Nat.mul_le_mul_left w (Nat.min_le_left x y)
  have hy : v * min x y ≤ v * y := Nat.mul_le_mul_left v (Nat.min_le_right x y)
  calc min x y * (w + v) = w * min x y + v * min x y := by ring
    _ ≤ w * x + v * y := Nat.add_le_add hx hy

/-- An average is not above both. -/
theorem weightedAvg_le_max (w v x y : Nat) :
    weightedAvg w v x y ≤ max x y := by
  unfold weightedAvg
  refine Nat.div_le_of_le_mul ?_
  have hx : w * x ≤ w * max x y := Nat.mul_le_mul_left w (Nat.le_max_left x y)
  have hy : v * y ≤ v * max x y := Nat.mul_le_mul_left v (Nat.le_max_right x y)
  calc w * x + v * y ≤ w * max x y + v * max x y := Nat.add_le_add hx hy
    _ = (w + v) * max x y := by ring

/-- The weighted sum of values up to `m` is at most `(w + v) * m`. -/
theorem weightedSum_le {w v m x y : Nat} (hx : x ≤ m) (hy : y ≤ m) :
    w * x + v * y ≤ (w + v) * m := by
  have hx : w * x ≤ w * m := Nat.mul_le_mul_left w hx
  have hy : v * y ≤ v * m := Nat.mul_le_mul_left v hy
  calc w * x + v * y ≤ w * m + v * m := Nat.add_le_add hx hy
    _ = (w + v) * m := by ring

/-- A part of a whole, in units of `m`, is at most `m`. -/
theorem fraction_le {m part whole : Nat} (h : part ≤ whole) : part * m / whole ≤ m := by
  rcases Nat.eq_zero_or_pos whole with h0 | hpos
  · rw [h0, Nat.div_zero]
    exact Nat.zero_le m
  · exact Nat.div_le_of_le_mul (Nat.mul_le_mul_right m h)

/-- Scaling by a fraction of `m` does not raise a value. -/
theorem scale_le {m f : Nat} (h : f ≤ m) (x : Nat) : x * f / m ≤ x := by
  rw [Nat.mul_comm]
  rcases Nat.eq_zero_or_pos m with h0 | hpos
  · rw [h0, Nat.div_zero]
    exact Nat.zero_le x
  · exact Nat.div_le_of_le_mul (Nat.mul_le_mul_right x h)

/-- A step up that stops at `m`. -/
def stepUp (m x d : Nat) : Nat := min m (x + d)

theorem le_stepUp {m x : Nat} (h : x ≤ m) (d : Nat) : x ≤ stepUp m x d :=
  Nat.le_min.mpr ⟨h, Nat.le_add_right x d⟩

/-- The test code makes before it adds, the room that is left, decides
which. -/
theorem stepUp_eq {m x : Nat} (h : x ≤ m) (d : Nat) :
    stepUp m x d = if m - x < d then m else x + d := by
  unfold stepUp
  split
  next hlt => exact Nat.min_eq_left (by omega)
  next hge => exact Nat.min_eq_right (by omega)

/-! ## 32-bit values in 64 bits -/

/-- A product of two 32-bit values fits. -/
theorem toNat_mul_wide (a b : UInt32) :
    (a.toUInt64 * b.toUInt64).toNat = a.toNat * b.toNat := by
  rw [UInt64.toNat_mul, UInt32.toNat_toUInt64, UInt32.toNat_toUInt64]
  have ha : a.toNat ≤ 4294967295 := Nat.le_of_lt_succ a.toNat_lt
  have hb : b.toNat ≤ 4294967295 := Nat.le_of_lt_succ b.toNat_lt
  have hab : a.toNat * b.toNat ≤ 4294967295 * 4294967295 := Nat.mul_le_mul ha hb
  exact Nat.mod_eq_of_lt (by omega)

/-- So does one of a 64-bit value that is below 2^32. -/
theorem toNat_mul_narrow {a : UInt64} (ha : a.toNat ≤ 4294967295) (b : UInt32) :
    (a * b.toUInt64).toNat = a.toNat * b.toNat := by
  rw [UInt64.toNat_mul, UInt32.toNat_toUInt64]
  have hb : b.toNat ≤ 4294967295 := Nat.le_of_lt_succ b.toNat_lt
  have hab : a.toNat * b.toNat ≤ 4294967295 * 4294967295 := Nat.mul_le_mul ha hb
  exact Nat.mod_eq_of_lt (by omega)

/-- Nothing is cut off a value below 2^32. -/
theorem toNat_narrow {x : UInt64} (h : x.toNat ≤ 4294967295) : x.toUInt32.toNat = x.toNat := by
  rw [UInt64.toNat_toUInt32]
  exact Nat.mod_eq_of_lt (by omega)

end Chamelio.Lib
