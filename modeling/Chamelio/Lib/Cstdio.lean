import Mathlib.Data.List.SplitOn

/-!
# Reading text as the C library does

`fgets`, the conversions `%u` and `%w[^c]` of `sscanf` and `inet_pton` for
IPv4, on text as a list of bytes. A conversion takes the text in front of it
and returns its value with the rest of the text, `none` where it does not
match.

Mirroring notes: a C string ends at its first zero byte (`cstr`). `%u` reads
an optional sign and decimal digits as `strtoul` does, with its value cut to
32 bits: a number that does not fit 64 bits is the largest that does, and a
minus sign negates. `inet_pton` takes four decimal numbers up to 255 with no
leading zeros, which is what the GNU library accepts. `strtoul` is here with
base 0, where the text says which base it is in.
-/

namespace Chamelio.Lib

/-- Text as its bytes. -/
abbrev Text := List UInt8

/-- `isspace` in the C locale. -/
def isSpace (b : UInt8) : Bool := b == 32 || (9 ≤ b && b ≤ 13)

/-- `isdigit`. -/
def isDigit (b : UInt8) : Bool := 48 ≤ b && b ≤ 57

/-- The C string at the start of a buffer. -/
def cstr (s : Text) : Text := s.takeWhile fun b => b != 0

/-! ## Lines -/

/-- At most `n` bytes, through the first newline, and the bytes behind them. -/
def takeLine : Nat → Text → Text × Text
  | 0, s => ([], s)
  | _ + 1, [] => ([], [])
  | n + 1, b :: s => if b = 10 then ([b], s) else (b :: (takeLine n s).1, (takeLine n s).2)

/-- `fgets` into a buffer of `size` bytes; `none` for `NULL` at the end of the
file. -/
def fgets (size : Nat) (fp : Text) : Option (Text × Text) :=
  match fp with
  | [] => none
  | _ :: _ => some (takeLine (size - 1) fp)

/-- What `fgets` returns one after the other, up to `n` times. -/
def fgetsAll (size : Nat) : Nat → Text → List Text
  | 0, _ => []
  | n + 1, fp =>
    match fgets size fp with
    | none => []
    | some (line, rest) => line :: fgetsAll size n rest

theorem takeLine_append (n : Nat) (s : Text) : (takeLine n s).1 ++ (takeLine n s).2 = s := by
  induction n generalizing s with
  | zero => rfl
  | succ n ih =>
    cases s with
    | nil => rfl
    | cons b s =>
      rw [takeLine]
      split
      · rfl
      · show b :: ((takeLine n s).1 ++ (takeLine n s).2) = b :: s
        rw [ih]

/-- A buffer with room for a byte and the zero behind it makes progress. -/
theorem fgets_length {size : Nat} (hsize : 2 ≤ size) {fp line rest : Text}
    (h : fgets size fp = some (line, rest)) : rest.length < fp.length := by
  cases fp with
  | nil => cases h
  | cons b s =>
    obtain ⟨n, hn⟩ : ∃ n, size - 1 = n + 1 := ⟨size - 2, by omega⟩
    have hline : takeLine (n + 1) (b :: s) = (line, rest) := hn ▸ Option.some.inj h
    have happ := takeLine_append (n + 1) (b :: s)
    rw [hline] at happ
    -- the first byte is always taken
    have hne : line ≠ [] := by
      rw [takeLine] at hline
      split at hline
      · have h1 := congrArg Prod.fst hline
        rw [← show [b] = line from h1]
        exact List.cons_ne_nil _ _
      · have h1 := congrArg Prod.fst hline
        rw [← show b :: (takeLine n s).1 = line from h1]
        exact List.cons_ne_nil _ _
    have hlen := congrArg List.length happ
    rw [List.length_append] at hlen
    dsimp only at hlen
    have := List.length_pos_iff.mpr hne
    omega

/-- **`fgets` reads the whole file**: as many calls as it has bytes return all
of it. -/
theorem fgetsAll_flatten {size : Nat} (hsize : 2 ≤ size) {n : Nat} {fp : Text}
    (hn : fp.length ≤ n) : (fgetsAll size n fp).flatten = fp := by
  induction n generalizing fp with
  | zero => exact (List.length_eq_zero_iff.mp (Nat.le_zero.mp hn)).symm
  | succ n ih =>
    rw [fgetsAll]
    cases hf : fgets size fp with
    | none =>
      cases fp with
      | nil => rfl
      | cons b s => cases hf
    | some p =>
      obtain ⟨line, rest⟩ := p
      have hlt := fgets_length hsize hf
      dsimp only
      rw [List.flatten_cons, ih (by omega)]
      cases fp with
      | nil => cases hf
      | cons b s =>
        have happ := takeLine_append (size - 1) (b :: s)
        rw [show takeLine (size - 1) (b :: s) = (line, rest) from Option.some.inj hf] at happ
        exact happ

/-! ## Conversions -/

/-- The number decimal digits stand for. -/
def decimal (s : Text) : Nat := s.foldl (fun n b => 10 * n + (b.toNat - 48)) 0

/-- An optional sign; whether it is a minus. -/
def scanSign (s : Text) : Bool × Text :=
  match s with
  | b :: rest => if b = 45 then (true, rest) else if b = 43 then (false, rest) else (false, s)
  | [] => (false, [])

/-- The `unsigned long` of `strtoul`, as an `unsigned int`. -/
def ulongToUint (neg : Bool) (n : Nat) : UInt32 :=
  if 18446744073709551616 ≤ n then 0xffffffff
  else if neg then UInt32.ofNat (18446744073709551616 - n) else UInt32.ofNat n

/-- `%u`. -/
def scanUint (s : Text) : Option (UInt32 × Text) :=
  let (neg, s) := scanSign (s.dropWhile isSpace)
  let digits := s.takeWhile isDigit
  if digits = [] then none
  else some (ulongToUint neg (decimal digits), s.dropWhile isDigit)

/-- A character of the format that is not white space. -/
def scanChar (c : UInt8) (s : Text) : Option Text :=
  match s with
  | b :: rest => if b = c then some rest else none
  | [] => none

/-- `%w[^c]`: the characters up to `c`, `w` at most. -/
def scanUntil (w : Nat) (c : UInt8) (s : Text) : Option (Text × Text) :=
  let field := (s.takeWhile fun b => b != c).take w
  if field = [] then none else some (field, s.drop field.length)

/-! ## Numbers in any base -/

/-- The value of a digit; letters count from 10 on. -/
def digitVal (b : UInt8) : Nat :=
  if 48 ≤ b ∧ b ≤ 57 then b.toNat - 48
  else if 65 ≤ b ∧ b ≤ 90 then b.toNat - 55
  else if 97 ≤ b ∧ b ≤ 122 then b.toNat - 87
  else 36

/-- The base a number says it is in, and its digits: `0x` is 16, a leading
zero 8. -/
def scanBase (s : Text) : Nat × Text :=
  match s with
  | 48 :: x :: d :: rest =>
    if (x = 120 ∨ x = 88) ∧ digitVal d < 16 then (16, d :: rest) else (8, s)
  | 48 :: _ => (8, s)
  | _ => (10, s)

/-- What `strtoul` gives its caller. -/
structure Strtoul where
  val : Nat
  /-- What `end` points at. -/
  rest : Text
  /-- `errno` was set: the number does not fit 64 bits. -/
  range : Bool

/-- `strtoul` with base 0. -/
def strtoul (s : Text) : Strtoul :=
  let (neg, t) := scanSign (s.dropWhile isSpace)
  let (base, t) := scanBase t
  let digits := t.takeWhile fun b => digitVal b < base
  if digits = [] then { val := 0, rest := s, range := false }
  else
    let n := digits.foldl (fun n b => base * n + digitVal b) 0
    let rest := t.dropWhile fun b => digitVal b < base
    if 18446744073709551616 ≤ n then { val := 18446744073709551615, rest, range := true }
    else if neg then { val := (18446744073709551616 - n) % 18446744073709551616, rest, range := false }
    else { val := n, rest, range := false }

/-! ## Addresses -/

/-- A decimal number up to 255 without leading zeros. -/
def octet (s : Text) : Option Nat :=
  if s ≠ [] ∧ s.length ≤ 3 ∧ s.all isDigit = true ∧ (s.head? = some 48 → s.length = 1) ∧
      decimal s ≤ 255 then some (decimal s)
  else none

/-- `inet_pton` for `AF_INET`; the address in host order, `none` where it does
not return 1. -/
def inetPton (s : Text) : Option UInt32 :=
  match s.splitOn 46 with
  | [s₁, s₂, s₃, s₄] => do
    let a ← octet s₁
    let b ← octet s₂
    let c ← octet s₃
    let d ← octet s₄
    return UInt32.ofNat (((a * 256 + b) * 256 + c) * 256 + d)
  | _ => none

end Chamelio.Lib
