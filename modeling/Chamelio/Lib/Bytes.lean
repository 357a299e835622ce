/-!
# Little-endian fields of packed structs

A buffer is a function from the byte index to the byte. A field of a packed
C struct is a fixed offset and a width in bytes; the host is little-endian.
`leGet` and `lePut` read and store such a field, and two lemmas say all
there is to say: a field reads back what was stored in it, reduced to its
width, and a store leaves every field it does not overlap alone.
-/

namespace Chamelio.Lib

/-- Number of values of a `w`-byte field. -/
def wordSize : Nat → Nat
  | 0 => 1
  | w + 1 => 256 * wordSize w

@[simp] theorem wordSize_two : wordSize 2 = 65536 := rfl
@[simp] theorem wordSize_four : wordSize 4 = 4294967296 := rfl
@[simp] theorem wordSize_eight : wordSize 8 = 18446744073709551616 := rfl

/-- The `w`-byte field at offset `o`. -/
def leGet (m : Nat → UInt8) (o : Nat) : Nat → Nat
  | 0 => 0
  | w + 1 => (m o).toNat + 256 * leGet m (o + 1) w

/-- Store `v` in the `w`-byte field at offset `o`. -/
def lePut (m : Nat → UInt8) (o v : Nat) : Nat → (Nat → UInt8)
  | 0 => m
  | w + 1 => fun i => if i = o then UInt8.ofNat v else lePut m (o + 1) (v / 256) w i

theorem leGet_lt (m : Nat → UInt8) (o w : Nat) : leGet m o w < wordSize w := by
  induction w generalizing o with
  | zero => exact Nat.zero_lt_one
  | succ w ih =>
    have h := ih (o + 1)
    have hb := (m o).toNat_lt
    rw [leGet, wordSize]
    omega

/-- Only the bytes of the field decide what it reads. -/
theorem leGet_congr {m m' : Nat → UInt8} {o w : Nat}
    (h : ∀ i, o ≤ i → i < o + w → m' i = m i) : leGet m' o w = leGet m o w := by
  induction w generalizing o with
  | zero => rfl
  | succ w ih =>
    rw [leGet, leGet, h o (by omega) (by omega)]
    rw [ih (fun i h₁ h₂ => h i (by omega) (by omega))]

theorem lePut_out {m : Nat → UInt8} {o v w i : Nat} (h : i < o ∨ o + w ≤ i) :
    lePut m o v w i = m i := by
  induction w generalizing o v with
  | zero => rfl
  | succ w ih =>
    show (if i = o then UInt8.ofNat v else lePut m (o + 1) (v / 256) w i) = m i
    rw [if_neg (by omega)]
    exact ih (by omega)

/-- A field reads back what was stored in it, reduced to its width. -/
@[simp] theorem leGet_lePut (m : Nat → UInt8) (o v w : Nat) :
    leGet (lePut m o v w) o w = v % wordSize w := by
  induction w generalizing m o v with
  | zero => exact (Nat.mod_one v).symm
  | succ w ih =>
    have hrest : leGet (lePut m o v (w + 1)) (o + 1) w = v / 256 % wordSize w := by
      rw [← ih m (o + 1) (v / 256)]
      apply leGet_congr
      intro i h₁ h₂
      show (if i = o then UInt8.ofNat v else lePut m (o + 1) (v / 256) w i) = _
      rw [if_neg (by omega)]
    have hfirst : (lePut m o v (w + 1) o).toNat = v % 256 := by
      show (if o = o then UInt8.ofNat v else lePut m (o + 1) (v / 256) w o).toNat = _
      rw [if_pos rfl]
      exact UInt8.toNat_ofNat'
    rw [leGet, hrest, hfirst, wordSize, Nat.mod_mul]

/-- A store leaves the fields it does not overlap alone. -/
theorem leGet_lePut_ne {m : Nat → UInt8} {o o' v w w' : Nat}
    (h : o' + w' ≤ o ∨ o + w ≤ o') : leGet (lePut m o v w) o' w' = leGet m o' w' := by
  apply leGet_congr
  intro i h₁ h₂
  exact lePut_out (by omega)

end Chamelio.Lib
