/-!
# 32-bit words: signed reading, serial distance, one-wrap addition

Protocol code counts in `uint32_t` and compares sequence numbers through a
signed cast. Everything here moves such a word to `Nat`, where `omega` can
finish: the value of a sum or a difference, the sign of a cast, the
distance between two serial numbers, and the ring-index idiom
"add, and subtract the length once if the sum passed it".
-/

namespace Chamelio.Lib

/-- `(int32_t) x`. -/
def s32 (x : UInt32) : Int := x.toInt32.toInt

theorem s32_eq (x : UInt32) :
    s32 x = if x.toNat < 2147483648 then (x.toNat : Int) else (x.toNat : Int) - 4294967296 := by
  unfold s32
  have h : x.toInt32.toInt = x.toBitVec.toInt := rfl
  rw [h, BitVec.toInt_eq_toNat_cond]
  have hx : x.toBitVec.toNat = x.toNat := rfl
  rw [hx]
  split <;> split <;> omega

theorem s32_neg_iff (x : UInt32) : s32 x < 0 ↔ 2147483648 ≤ x.toNat := by
  have := x.toNat_lt
  rw [s32_eq]
  split <;> omega

theorem s32_pos_iff (x : UInt32) : 0 < s32 x ↔ 0 < x.toNat ∧ x.toNat < 2147483648 := by
  have := x.toNat_lt
  rw [s32_eq]
  split <;> omega

/-- The distance from `b` up to `a` on the 32-bit circle. -/
theorem toNat_sub_eq (a b : UInt32) :
    (a - b).toNat = if b.toNat ≤ a.toNat then a.toNat - b.toNat
      else a.toNat + 4294967296 - b.toNat := by
  have ha := a.toNat_lt
  have hb := b.toNat_lt
  rw [UInt32.toNat_sub]
  split <;> omega

theorem toNat_sub_of_le {a b : UInt32} (h : b.toNat ≤ a.toNat) :
    (a - b).toNat = a.toNat - b.toNat := by
  rw [toNat_sub_eq, if_pos h]

theorem toNat_add_of_lt {a b : UInt32} (h : a.toNat + b.toNat < 4294967296) :
    (a + b).toNat = a.toNat + b.toNat := by
  rw [UInt32.toNat_add]
  omega

/-- `a` is before `b`: less than half a turn, or just half a turn, is left. -/
theorem s32_sub_neg_iff (a b : UInt32) :
    s32 (a - b) < 0 ↔ 0 < (b - a).toNat ∧ (b - a).toNat ≤ 2147483648 := by
  have ha := a.toNat_lt
  have hb := b.toNat_lt
  rw [s32_neg_iff, toNat_sub_eq, toNat_sub_eq]
  split <;> split <;> omega

/-- What is left of the way to `b` once `a` moved on by `k`. -/
theorem toNat_sub_add (a b k : UInt32) :
    (b - (a + k)).toNat = if k.toNat ≤ (b - a).toNat then (b - a).toNat - k.toNat
      else (b - a).toNat + 4294967296 - k.toNat := by
  have ha := a.toNat_lt
  have hk := k.toNat_lt
  have hd := (b - a).toNat_lt
  have h₁ := UInt32.toNat_sub b (a + k)
  have h₂ := UInt32.toNat_sub b a
  have h₃ := UInt32.toNat_add a k
  split <;> omega

/-- A word is zero exactly when its value is. -/
theorem u32_eq_zero_iff (x : UInt32) : x = 0 ↔ x.toNat = 0 := by
  constructor
  · intro h; rw [h]; rfl
  · intro h; exact UInt32.toNat_inj.mp (by rw [h]; rfl)

/-- The smaller of two words, written the way the C code clamps: `x`,
replaced by `y` if it exceeds it. -/
theorem toNat_clamp (x y : UInt32) :
    (if x > y then y else x).toNat = min x.toNat y.toNat := by
  by_cases h : x > y
  · rw [if_pos h]
    have : y.toNat < x.toNat := UInt32.lt_iff_toNat_lt.mp h
    omega
  · rw [if_neg h]
    have : ¬ y.toNat < x.toNat := fun hlt => h (UInt32.lt_iff_toNat_lt.mpr hlt)
    omega

/-- Ring index: add, and subtract the length once when the sum reaches it. -/
def wrapAdd (a b len : UInt32) : UInt32 :=
  if a + b ≥ len then a + b - len else a + b

/-- With `a < len`, `b ≤ len` and no overflow of the sum, one subtraction is
reduction modulo the length. -/
theorem toNat_wrapAdd {a b len : UInt32} (ha : a.toNat < len.toNat)
    (hb : b.toNat ≤ len.toNat) (hov : a.toNat + b.toNat < 4294967296) :
    (wrapAdd a b len).toNat = (a.toNat + b.toNat) % len.toNat := by
  have hsum := toNat_add_of_lt hov
  unfold wrapAdd
  by_cases h : a + b ≥ len
  · have hle : len.toNat ≤ (a + b).toNat := UInt32.le_iff_toNat_le.mp h
    rw [if_pos h, toNat_sub_of_le hle, hsum]
    rw [hsum] at hle
    rw [Nat.mod_eq_sub_mod hle, Nat.mod_eq_of_lt (by omega)]
  · have hlt : ¬ len.toNat ≤ (a + b).toNat := fun hle => h (UInt32.le_iff_toNat_le.mpr hle)
    rw [if_neg h, hsum, Nat.mod_eq_of_lt (by omega)]

/-! ## Serial numbers -/

/-- The word at stream offset `n` of a sequence space that starts at `base`. -/
def serial (base : UInt32) (n : Nat) : UInt32 := base + UInt32.ofNat n

theorem serial_toNat (base : UInt32) (n : Nat) :
    (serial base n).toNat = (base.toNat + n) % 4294967296 := by
  unfold serial
  rw [UInt32.toNat_add, UInt32.toNat_ofNat']
  omega

theorem serial_add (base : UInt32) (n : Nat) (k : UInt32) :
    serial base n + k = serial base (n + k.toNat) := by
  apply UInt32.toNat_inj.mp
  rw [UInt32.toNat_add, serial_toNat, serial_toNat]
  omega

@[simp] theorem serial_zero (base : UInt32) : serial base 0 = base := by
  apply UInt32.toNat_inj.mp
  rw [serial_toNat]
  have := base.toNat_lt
  omega

/-- The circular distance between the words of two offsets is the distance
of the offsets, up to whole turns. -/
theorem serial_distance {base x : UInt32} {n : Nat} {t : Int}
    (hx : (x.toNat : Int) = ((base.toNat : Int) + t) % 4294967296) :
    ((x - serial base n).toNat : Int) = (t - n) % 4294967296 ∧
    ((serial base n - x).toNat : Int) = ((n : Int) - t) % 4294967296 := by
  have hs := serial_toNat base n
  have hxl := x.toNat_lt
  have hsl := (serial base n).toNat_lt
  have hs' : ((serial base n).toNat : Int) = ((base.toNat : Int) + n) % 4294967296 := by omega
  constructor
  · have h := UInt32.toNat_sub x (serial base n)
    omega
  · have h := UInt32.toNat_sub (serial base n) x
    omega

/-- Less than a whole turn, the difference of the words is that of the
offsets. -/
theorem serial_sub {base : UInt32} {n k : Nat} (hk : k < 4294967296) :
    (serial base (n + k) - serial base n).toNat = k := by
  have h₁ := serial_toNat base (n + k)
  have h₂ := serial_toNat base n
  have h₃ := UInt32.toNat_sub (serial base (n + k)) (serial base n)
  omega

end Chamelio.Lib
