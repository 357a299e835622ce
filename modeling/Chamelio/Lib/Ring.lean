import Chamelio.Lib.Word

/-!
# Byte rings in flat memory

`memcpy` into and out of a ring of `len` cells at address `base`, split at
the end of the ring the way C code splits it, and the one predicate the
callers reason with: `Holds m base len lo hi s`, "for stream offsets from
`lo` up to `hi` the ring cell of the offset holds the stream's byte". A
ring write at the end of what is held extends `hi`; releasing bytes raises
`lo`; everything that stays outside the ring is a frame.

The code computes ring indices in 32-bit words. The last section says when
its split copies are the operations above.
-/

namespace Chamelio.Lib

section

variable {α : Type}

/-- `memcpy(m + dst, src, n)`. -/
def blit (m : Nat → α) (dst : Nat) (src : Nat → α) (n : Nat) : Nat → α :=
  fun a => if dst ≤ a ∧ a < dst + n then src (a - dst) else m a

theorem blit_in {m : Nat → α} {dst : Nat} {src : Nat → α} {n i : Nat} (h : i < n) :
    blit m dst src n (dst + i) = src i := by
  unfold blit
  rw [if_pos (by omega)]
  congr 1
  omega

theorem blit_out {m : Nat → α} {dst : Nat} {src : Nat → α} {n a : Nat}
    (h : a < dst ∨ dst + n ≤ a) : blit m dst src n a = m a := by
  unfold blit
  rw [if_neg (by omega)]

/-- Copy `n` cells into the ring from index `tail` on, in two parts when the
copy passes the end. -/
def ringWrite (m : Nat → α) (base len tail : Nat) (src : Nat → α) (n : Nat) : Nat → α :=
  if tail + n ≤ len then blit m (base + tail) src n
  else blit (blit m (base + tail) src (len - tail)) base
    (fun i => src (len - tail + i)) (n - (len - tail))

/-- Copy `n` cells out of the ring from index `pos` on. -/
def ringRead (m : Nat → α) (base len pos n : Nat) : Nat → α :=
  fun i => if pos + n ≤ len then m (base + pos + i)
    else if i < len - pos then m (base + pos + i) else m (base + (i - (len - pos)))

theorem mod_once {a len : Nat} (h : a < 2 * len) :
    a % len = if a < len then a else a - len := by
  by_cases hlt : a < len
  · rw [if_pos hlt, Nat.mod_eq_of_lt hlt]
  · rw [if_neg hlt, Nat.mod_eq_sub_mod (by omega), Nat.mod_eq_of_lt (by omega)]

theorem ringRead_eq {m : Nat → α} {base len pos n i : Nat} (hpos : pos < len)
    (hn : n ≤ len) (hi : i < n) :
    ringRead m base len pos n i = m (base + (pos + i) % len) := by
  unfold ringRead
  rw [mod_once (show pos + i < 2 * len by omega)]
  by_cases hfit : pos + n ≤ len
  · rw [if_pos hfit, if_pos (by omega)]
    congr 1
    omega
  · rw [if_neg hfit]
    by_cases hlt : pos + i < len
    · rw [if_pos (by omega), if_pos hlt]
      congr 1
      omega
    · rw [if_neg (by omega), if_neg hlt]
      congr 1
      omega

/-- A ring write touches nothing outside the ring. -/
theorem ringWrite_frame {m : Nat → α} {base len tail : Nat} {src : Nat → α} {n a : Nat}
    (htail : tail ≤ len) (hn : n ≤ len) (ha : a < base ∨ base + len ≤ a) :
    ringWrite m base len tail src n a = m a := by
  unfold ringWrite
  by_cases hfit : tail + n ≤ len
  · rw [if_pos hfit]
    exact blit_out (by omega)
  · rw [if_neg hfit]
    rw [blit_out (by omega), blit_out (by omega)]

/-- What a ring write leaves in the cell `k` places after `tail`. -/
theorem ringWrite_at {m : Nat → α} {base len tail : Nat} {src : Nat → α} {n k : Nat}
    (htail : tail < len) (hn : n ≤ len) (hk : k < len) :
    ringWrite m base len tail src n (base + (tail + k) % len) =
      if k < n then src k else m (base + (tail + k) % len) := by
  unfold ringWrite
  rw [mod_once (show tail + k < 2 * len by omega)]
  by_cases hfit : tail + n ≤ len
  · rw [if_pos hfit]
    by_cases hkn : k < n
    · rw [if_pos hkn, if_pos (by omega), ← Nat.add_assoc]
      exact blit_in hkn
    · rw [if_neg hkn]
      apply blit_out
      split <;> omega
  · rw [if_neg hfit]
    by_cases hwrap : tail + k < len
    · rw [if_pos hwrap, blit_out (by omega), if_pos (by omega), ← Nat.add_assoc]
      exact blit_in (by omega)
    · rw [if_neg hwrap]
      by_cases hkn : k < n
      · rw [if_pos hkn, blit_in (by omega)]
        congr 1
        omega
      · rw [if_neg hkn, blit_out (by omega), blit_out (by omega)]

/-! ## What the ring holds -/

/-- The ring cells of the stream offsets in `[lo, hi)` hold the stream. -/
def Holds (m : Nat → α) (base len lo hi : Nat) (s : Nat → α) : Prop :=
  ∀ o, lo ≤ o → o < hi → m (base + o % len) = s o

theorem Holds.shrink {m : Nat → α} {base len lo lo' hi hi' : Nat} {s : Nat → α}
    (h : Holds m base len lo hi s) (hlo : lo ≤ lo') (hhi : hi' ≤ hi) :
    Holds m base len lo' hi' s :=
  fun o h₁ h₂ => h o (by omega) (by omega)

/-- Memory that agrees on the ring holds the same stream. -/
theorem Holds.frame {m m' : Nat → α} {base len lo hi : Nat} {s : Nat → α} (hlen : 0 < len)
    (heq : ∀ a, base ≤ a → a < base + len → m' a = m a) (h : Holds m base len lo hi s) :
    Holds m' base len lo hi s := by
  intro o h₁ h₂
  have := Nat.mod_lt o hlen
  rw [heq _ (by omega) (by omega)]
  exact h o h₁ h₂

/-- Writing the next `n` stream cells at the end of what is held. -/
theorem Holds.write {m : Nat → α} {base len lo hi n : Nat} {s src : Nat → α}
    (hlen : 0 < len) (hlo : lo ≤ hi) (hfit : hi + n ≤ lo + len)
    (hsrc : ∀ i, i < n → src i = s (hi + i)) (h : Holds m base len lo hi s) :
    Holds (ringWrite m base len (hi % len) src n) base len lo (hi + n) s := by
  intro o h₁ h₂
  have hmod := Nat.mod_lt hi hlen
  -- the cell of `o` lies `k` places after the tail, counted around the ring
  obtain ⟨k, hk, hcell⟩ : ∃ k, k < len ∧ o % len = (hi % len + k) % len ∧
      (hi ≤ o → k = o - hi) ∧ (o < hi → n ≤ k) := by
    by_cases ho : hi ≤ o
    · refine ⟨o - hi, by omega, ?_, fun _ => rfl, fun h => absurd h (by omega)⟩
      rw [Nat.mod_add_mod]
      congr 1
      omega
    · refine ⟨o + len - hi, by omega, ?_, fun h => absurd h ho, fun _ => by omega⟩
      rw [Nat.mod_add_mod, show hi + (o + len - hi) = o + len by omega, Nat.add_mod_right]
  rw [hcell.1, ringWrite_at hmod (by omega) hk, ← hcell.1]
  by_cases ho : hi ≤ o
  · rw [if_pos (by have := hcell.2.1 ho; omega), hsrc _ (by have := hcell.2.1 ho; omega)]
    congr 1
    have := hcell.2.1 ho
    omega
  · rw [if_neg (by have := hcell.2.2 (by omega); omega)]
    exact h o h₁ (by omega)

/-- Reading `n` held cells from offset `o` on. -/
theorem Holds.read {m : Nat → α} {base len lo hi n i o : Nat} {s : Nat → α}
    (hlen : 0 < len) (hlo : lo ≤ o) (hhi : o + n ≤ hi) (hn : n ≤ len) (hi' : i < n)
    (h : Holds m base len lo hi s) : ringRead m base len (o % len) n i = s (o + i) := by
  rw [ringRead_eq (Nat.mod_lt o hlen) hn hi', Nat.mod_add_mod]
  exact h (o + i) (by omega) (by omega)

/-- Writing a list behind the stream `w`. -/
theorem Holds.append {m : Nat → α} {base len lo : Nat} {w d : List α} {src : Nat → α} {z : α}
    (hlen : 0 < len) (hlo : lo ≤ w.length) (hfit : w.length + d.length ≤ lo + len)
    (hsrc : ∀ i, i < d.length → src i = d.getD i z)
    (h : Holds m base len lo w.length fun o => w.getD o z) :
    Holds (ringWrite m base len (w.length % len) src d.length) base len lo (w ++ d).length
      fun o => (w ++ d).getD o z := by
  have hold : Holds m base len lo w.length fun o => (w ++ d).getD o z := by
    intro o hlo hhi
    rw [h o hlo hhi]
    show w.getD o z = (w ++ d).getD o z
    rw [List.getD_eq_getElem?_getD, List.getD_eq_getElem?_getD, List.getElem?_append_left hhi]
  rw [List.length_append]
  refine hold.write hlen hlo hfit ?_
  intro i hi
  rw [hsrc i hi]
  show d.getD i z = (w ++ d).getD (w.length + i) z
  rw [List.getD_eq_getElem?_getD, List.getD_eq_getElem?_getD,
    List.getElem?_append_right (Nat.le_add_right _ _), Nat.add_sub_cancel_left]

/-- Reading the part `d` of a stream. -/
theorem Holds.readPart {m : Nat → α} {base len lo hi : Nat} {w d v : List α} {z : α}
    (hlen : 0 < len) (hlo : lo ≤ w.length) (hhi : w.length + d.length ≤ hi)
    (hd : d.length ≤ len) (h : Holds m base len lo hi fun o => (w ++ d ++ v).getD o z) :
    (List.range d.length).map (ringRead m base len (w.length % len) d.length) = d := by
  apply List.ext_getElem?
  intro i
  rw [List.getElem?_map]
  by_cases hi' : i < d.length
  · rw [List.getElem?_range hi', Option.map_some, h.read hlen hlo hhi hd hi',
      List.getElem?_eq_getElem hi']
    rw [List.append_assoc, List.getD_eq_getElem?_getD,
      List.getElem?_append_right (Nat.le_add_right _ _), Nat.add_sub_cancel_left,
      List.getElem?_append_left hi', List.getElem?_eq_getElem hi']
    rfl
  · rw [List.getElem?_eq_none (by rw [List.length_range]; omega), Option.map_none,
      List.getElem?_eq_none (by omega)]

end

/-! ## Indices in words -/

section words

variable {head avail len n : UInt32}

/-- The index behind `avail` bytes, and where the copy of `n` bytes from it
splits. -/
theorem ringIndex (hhead : head.toNat < len.toNat) (hfit : avail.toNat + n.toNat ≤ len.toNat)
    (hov : head.toNat + len.toNat < 4294967296) :
    (wrapAdd head avail len).toNat = (head.toNat + avail.toNat) % len.toNat ∧
    (wrapAdd head avail len + n ≤ len ↔
      (head.toNat + avail.toNat) % len.toNat + n.toNat ≤ len.toNat) ∧
    (len - wrapAdd head avail len).toNat =
      len.toNat - (head.toNat + avail.toNat) % len.toNat ∧
    (¬ wrapAdd head avail len + n ≤ len →
      (n - (len - wrapAdd head avail len)).toNat =
        n.toNat - (len.toNat - (head.toNat + avail.toNat) % len.toNat)) := by
  have htail := toNat_wrapAdd hhead (show avail.toNat ≤ len.toNat by omega) (by omega)
  have hlt : (head.toNat + avail.toNat) % len.toNat < len.toNat := Nat.mod_lt _ (by omega)
  have hsum : (head.toNat + avail.toNat) % len.toNat + n.toNat < 4294967296 := by
    rw [mod_once (show head.toNat + avail.toNat < 2 * len.toNat by omega)]
    split <;> omega
  rw [← htail] at hlt hsum ⊢
  have hadd := toNat_add_of_lt hsum
  have hpart := toNat_sub_of_le (Nat.le_of_lt hlt)
  have hiff : wrapAdd head avail len + n ≤ len ↔
      (wrapAdd head avail len).toNat + n.toNat ≤ len.toNat := by
    rw [UInt32.le_iff_toNat_le, hadd]
  refine ⟨rfl, hiff, hpart, fun hgt => ?_⟩
  rw [hiff] at hgt
  rw [toNat_sub_of_le (by omega), hpart]

/-- A copy to the index behind `avail` bytes, split in words. -/
theorem ringWrite_words {α : Type} (m : Nat → α) (base : Nat) (src : Nat → α)
    (hhead : head.toNat < len.toNat) (hfit : avail.toNat + n.toNat ≤ len.toNat)
    (hov : head.toNat + len.toNat < 4294967296) :
    (if wrapAdd head avail len + n ≤ len then
        blit m (base + (wrapAdd head avail len).toNat) src n.toNat
      else
        blit (blit m (base + (wrapAdd head avail len).toNat) src
            (len - wrapAdd head avail len).toNat) base
          (fun i => src ((len - wrapAdd head avail len).toNat + i))
          (n - (len - wrapAdd head avail len)).toNat) =
      ringWrite m base len.toNat ((head.toNat + avail.toNat) % len.toNat) src n.toNat := by
  obtain ⟨htail, hiff, hpart, hrest⟩ := ringIndex hhead hfit hov
  unfold ringWrite
  by_cases h : wrapAdd head avail len + n ≤ len
  · rw [if_pos h, if_pos (hiff.mp h), htail]
  · rw [if_neg h, if_neg (fun hn => h (hiff.mpr hn)), hrest h, hpart, htail]

/-- The list of the `n` cells from the head on, split in words. -/
theorem ringRead_words {α : Type} (m : Nat → α) (base : Nat) (hhead : head.toNat < len.toNat)
    (hfit : n.toNat ≤ len.toNat) (hov : head.toNat + len.toNat < 4294967296) :
    (if head + n > len then
        (List.range (len - head).toNat).map (fun k => m (base + head.toNat + k)) ++
          (List.range (n - (len - head)).toNat).map (fun k => m (base + k))
      else (List.range n.toNat).map (fun k => m (base + head.toNat + k))) =
      (List.range n.toNat).map (ringRead m base len.toNat head.toNat n.toNat) := by
  have hadd : (head + n).toNat = head.toNat + n.toNat := toNat_add_of_lt (by omega)
  have hpart := toNat_sub_of_le (Nat.le_of_lt hhead)
  have hiff : head + n ≤ len ↔ head.toNat + n.toNat ≤ len.toNat := by
    rw [UInt32.le_iff_toNat_le, hadd]
  by_cases h : head + n ≤ len
  · rw [if_neg (UInt32.not_lt.mpr h)]
    apply List.map_congr_left
    intro i _
    unfold ringRead
    rw [if_pos (hiff.mp h)]
  · have hgt : ¬ head.toNat + n.toNat ≤ len.toNat := fun hn => h (hiff.mpr hn)
    rw [if_pos (UInt32.not_le.mp h), toNat_sub_of_le (show (len - head).toNat ≤ n.toNat by omega),
      hpart]
    -- the second part continues where the ring starts again
    have hsplit : List.range n.toNat = List.range (len.toNat - head.toNat) ++
        (List.range (n.toNat - (len.toNat - head.toNat))).map ((len.toNat - head.toNat) + ·) := by
      rw [← List.range_add]
      congr 1
      omega
    rw [hsplit, List.map_append, List.map_map]
    congr 1
    · apply List.map_congr_left
      intro i hi
      unfold ringRead
      rw [if_neg hgt, if_pos (List.mem_range.mp hi)]
    · apply List.map_congr_left
      intro i _
      show _ = ringRead m base len.toNat head.toNat n.toNat (len.toNat - head.toNat + i)
      unfold ringRead
      rw [if_neg hgt, if_neg (by omega)]
      congr 2
      omega

end words

end Chamelio.Lib
