import Mathlib.Algebra.GroupWithZero.Nat
import Chamelio.Lib.Run
import Chamelio.Lib.Word

/-!
# Budgets of the guests (`control/control_budget.c`)

With performance isolation on, every guest has a counter of cycles on every
core. The control plane starts it at the core's share of `budget_cap`,
`control_budget_refresh` adds to it from time to time and the cores take off
what they spent. The refresh reads a counter, decides how much it may add
without passing the share, and adds it later with an atomic addition; in
between the core may have taken cycles off, never put any on.

Mirroring notes:
- Load and addition are two steps of the control plane; charges of the cores
  come in anywhere. Guests are accepted between two refreshes, by the same
  thread.
- `creds_add` is computed in floating point and is any 64-bit number here.
- The loops over the cores compare an `int` with `(int) fp_cores_max`.
- `given` and `creds` are no part of the program: what the last refresh
  added to each counter so far, and the credits it shares out.
-/

namespace Chamelio.Control.Budget

open Chamelio.Lib

/-- `budget_share`. -/
def budgetShare (total : UInt64) (idx nr : UInt32) : UInt64 :=
  if nr = 0 then 0
  else
    let share := total / nr.toUInt64
    if idx.toUInt64 < total % nr.toUInt64 then share + 1 else share

/-- Where `control_budget_refresh` stands. -/
structure RefreshAt where
  guest : Nat
  core : Nat
  /-- `guest_add`, between the load and the addition. -/
  guestAdd : Option Int64

structure BudgetSys where
  perfIso : Bool
  fpCoresMax : UInt32
  budgetCap : UInt64
  nGuests : Nat
  /-- `guests[i].budgets[j].val`. -/
  budgets : Nat → Nat → Int64
  refresh : Option RefreshAt
  creds : UInt64
  given : Nat → Nat → Int

inductive BudgetAct
  /-- `uxsocket_accept`, `ivshmem` accept: the counters of a new guest. -/
  | accept
  /-- `control_budget_refresh` starts, with its `creds_add`. -/
  | refresh (credsAdd : UInt64)
  /-- The next atomic step of the refresh. -/
  | control
  /-- `fast_budg_charge` for a guest on a core. -/
  | charge (guest core : Nat) (cyc : UInt64)

namespace BudgetSys

/-- The cores the loops visit. -/
def cores (s : BudgetSys) : Nat := (s32 s.fpCoresMax).toNat

/-- The share of `total` of core `j`. -/
def share (s : BudgetSys) (total : UInt64) (j : Nat) : UInt64 :=
  budgetShare total (UInt32.ofNat j) s.fpCoresMax

def setBudget (s : BudgetSys) (i j : Nat) (v : Int64) : BudgetSys :=
  { s with budgets := fun a b => if a = i ∧ b = j then v else s.budgets a b }

/-- `budgets[j].val` of a new guest. -/
def firstBudget (s : BudgetSys) (j : Nat) : Int64 :=
  if s.perfIso then (s.share s.budgetCap j).toInt64 else Int64.maxValue

/-- `guest_add` for core `j`, from the loaded counter. -/
def clampAdd (s : BudgetSys) (j : Nat) (budg : Int64) : Int64 :=
  let budgCap := (s.share s.budgetCap j).toInt64
  let guestAdd := (s.share s.creds j).toInt64
  if budg ≥ budgCap then 0
  else if budg > budgCap - guestAdd then budgCap - budg
  else guestAdd

/-- The loops move on to the next counter. -/
def advance (s : BudgetSys) (r : RefreshAt) : Option RefreshAt :=
  if r.core + 1 < s.cores then some { guest := r.guest, core := r.core + 1, guestAdd := none }
  else if r.guest + 1 < s.nGuests then some { guest := r.guest + 1, core := 0, guestAdd := none }
  else none

def acceptGuest (s : BudgetSys) : BudgetSys :=
  if s.refresh.isSome then s
  else
    { s with
      nGuests := s.nGuests + 1
      budgets := fun i j =>
        if i = s.nGuests ∧ j < s.cores then s.firstBudget j else s.budgets i j }

/-- `control_budget_refresh` is called. -/
def controlBudgetRefresh (s : BudgetSys) (credsAdd : UInt64) : BudgetSys :=
  if s.refresh.isSome ∨ s.nGuests = 0 ∨ s.cores = 0 then s
  else
    { s with
      refresh := some { guest := 0, core := 0, guestAdd := none }
      creds := credsAdd
      given := fun _ _ => 0 }

/-- The next load or addition of `control_budget_refresh`. -/
def controlBudgetRefreshNext (s : BudgetSys) : BudgetSys :=
  match s.refresh with
  | none => s
  | some r =>
    if s.perfIso then
      match r.guestAdd with
      | none =>
        let guestAdd := s.clampAdd r.core (s.budgets r.guest r.core)
        { s with refresh := some { r with guestAdd := some guestAdd } }
      | some guestAdd =>
        { s.setBudget r.guest r.core (s.budgets r.guest r.core + guestAdd) with
          refresh := s.advance r
          given := fun a b =>
            if a = r.guest ∧ b = r.core then s.given a b + guestAdd.toInt else s.given a b }
    else { s.setBudget r.guest r.core Int64.maxValue with refresh := s.advance r }

/-- `__atomic_fetch_sub(g->budget, cyc)`. -/
def fastBudgCharge (s : BudgetSys) (i j : Nat) (cyc : UInt64) : BudgetSys :=
  s.setBudget i j (s.budgets i j - cyc.toInt64)

def next (s : BudgetSys) : BudgetAct → BudgetSys
  | .accept => s.acceptGuest
  | .refresh credsAdd => s.controlBudgetRefresh credsAdd
  | .control => s.controlBudgetRefreshNext
  | .charge i j cyc => s.fastBudgCharge i j cyc

def step (s : BudgetSys) (a : BudgetAct) : BudgetSys × Unit := (s.next a, ())

end BudgetSys

/-! ## Shares -/

/-- `n` quotients, and one more for each unit of the remainder. -/
private theorem sum_quotients (q r : Nat) : ∀ n,
    ((List.range n).map fun j => q + if j < r then 1 else 0).sum = n * q + min n r := by
  intro n
  induction n with
  | zero => simp
  | succ n ih =>
    rw [List.range_succ, List.map_append, List.sum_append, ih]
    simp only [List.map_cons, List.map_nil, List.sum_cons, List.sum_nil, Nat.succ_mul]
    split <;> omega

private theorem nr_pos {nr : UInt32} (hnr : nr ≠ 0) : 0 < nr.toNat :=
  Nat.pos_of_ne_zero fun h => hnr ((u32_eq_zero_iff nr).mpr h)

theorem budgetShare_toNat (total : UInt64) {nr : UInt32} (hnr : nr ≠ 0) (idx : UInt32) :
    (budgetShare total idx nr).toNat =
      total.toNat / nr.toNat + if idx.toNat < total.toNat % nr.toNat then 1 else 0 := by
  have hpos := nr_pos hnr
  have ht := total.toNat_lt
  have hquot : (total / nr.toUInt64).toNat = total.toNat / nr.toNat := by
    rw [UInt64.toNat_div, UInt32.toNat_toUInt64]
  have hrem : (total % nr.toUInt64).toNat = total.toNat % nr.toNat := by
    rw [UInt64.toNat_mod, UInt32.toNat_toUInt64]
  unfold budgetShare
  rw [if_neg hnr]
  dsimp only
  have hiff : idx.toUInt64 < total % nr.toUInt64 ↔ idx.toNat < total.toNat % nr.toNat := by
    rw [UInt64.lt_iff_toNat_lt, hrem, UInt32.toNat_toUInt64]
  by_cases hlt : idx.toNat < total.toNat % nr.toNat
  · -- a remainder is left, so the quotient is not the largest number
    have hsmall : total.toNat / nr.toNat + 1 < 18446744073709551616 := by
      have hmul := Nat.div_add_mod total.toNat nr.toNat
      have hle : total.toNat / nr.toNat ≤ nr.toNat * (total.toNat / nr.toNat) :=
        Nat.le_mul_of_pos_left _ hpos
      omega
    rw [if_pos (hiff.mpr hlt), if_pos hlt, UInt64.toNat_add, hquot]
    exact Nat.mod_eq_of_lt hsmall
  · rw [if_neg (fun h => hlt (hiff.mp h)), if_neg hlt, hquot]
    rfl

/-- The shares of all cores are the whole. -/
theorem budgetShare_sum (total : UInt64) {nr : UInt32} (hnr : nr ≠ 0) :
    ((List.range nr.toNat).map fun j => (budgetShare total (UInt32.ofNat j) nr).toNat).sum =
      total.toNat := by
  have hpos := nr_pos hnr
  have hlt := nr.toNat_lt
  have hmap : ((List.range nr.toNat).map fun j =>
      (budgetShare total (UInt32.ofNat j) nr).toNat) =
      (List.range nr.toNat).map fun j =>
        total.toNat / nr.toNat + if j < total.toNat % nr.toNat then 1 else 0 := by
    apply List.map_congr_left
    intro j hj
    have hj' := List.mem_range.mp hj
    rw [budgetShare_toNat total hnr, UInt32.toNat_ofNat',
      Nat.mod_eq_of_lt (show j < 4294967296 by omega)]
  rw [hmap, sum_quotients, Nat.min_eq_right (Nat.le_of_lt (Nat.mod_lt _ hpos))]
  exact Nat.div_add_mod total.toNat nr.toNat

/-- A share is no more than the whole. -/
theorem budgetShare_le (total : UInt64) (idx nr : UInt32) :
    (budgetShare total idx nr).toNat ≤ total.toNat := by
  by_cases hnr : nr = 0
  · unfold budgetShare
    rw [if_pos hnr]
    exact Nat.zero_le _
  · have hpos := nr_pos hnr
    have hmul := Nat.div_add_mod total.toNat nr.toNat
    have hle : total.toNat / nr.toNat ≤ nr.toNat * (total.toNat / nr.toNat) :=
      Nat.le_mul_of_pos_left _ hpos
    rw [budgetShare_toNat total hnr]
    split <;> omega

/-! ## Signed counters -/

/-- Half the range of a counter, and the depth to which it may sink. -/
def half : Int := 9223372036854775808
def depth : Int := 4611686018427387904

theorem toInt64_toInt {x : UInt64} (h : (x.toNat : Int) < half) : x.toInt64.toInt = x.toNat := by
  have hval : x.toInt64.toInt = x.toBitVec.toInt := rfl
  have hnat : x.toBitVec.toNat = x.toNat := rfl
  unfold half at h
  rw [hval, BitVec.toInt_eq_toNat_cond, hnat, if_pos (by omega)]

private theorem bmod_eq {x : Int} (hlo : -half ≤ x) (hhi : x < half) :
    x.bmod (2 ^ 64) = x := by
  unfold half at hlo hhi
  exact Int.bmod_eq_of_le (by omega) (by omega)

theorem toInt_add_of_range {a b : Int64} (hlo : -half ≤ a.toInt + b.toInt)
    (hhi : a.toInt + b.toInt < half) : (a + b).toInt = a.toInt + b.toInt := by
  rw [Int64.toInt_add, bmod_eq hlo hhi]

theorem toInt_sub_of_range {a b : Int64} (hlo : -half ≤ a.toInt - b.toInt)
    (hhi : a.toInt - b.toInt < half) : (a - b).toInt = a.toInt - b.toInt := by
  rw [Int64.toInt_sub, bmod_eq hlo hhi]

/-- A charge takes the cycles off, if the counter can sink so far. -/
theorem toInt_charge {a : Int64} {cyc : UInt64} (h : -depth ≤ a.toInt - cyc.toNat) :
    (a - cyc.toInt64).toInt = a.toInt - cyc.toNat := by
  have ha := a.toInt_lt
  have hval : cyc.toInt64.toInt = cyc.toBitVec.toInt := rfl
  have hnat : cyc.toBitVec.toNat = cyc.toNat := rfl
  unfold depth at h
  rw [Int64.toInt_sub, hval, BitVec.toInt_eq_toNat_cond, hnat]
  split
  · exact bmod_eq (by unfold half; omega) (by unfold half; omega)
  · -- read as a negative number it is the same modulo `2^64`
    have hturn : a.toInt - (cyc.toNat - ((2 ^ 64 : Nat) : Int)) =
        a.toInt - cyc.toNat + ((2 ^ 64 : Nat) : Int) := by omega
    rw [hturn, Int.add_bmod_right]
    exact bmod_eq (by unfold half; omega) (by unfold half; omega)

namespace BudgetSys

variable {s : BudgetSys}

/-- What a refresh may add: not below nothing, not above the share of the
credits, and not past the share of the cap. -/
theorem clampAdd_spec {j : Nat} {budg : Int64} (hcap : (s.budgetCap.toNat : Int) < half)
    (hcreds : (s.creds.toNat : Int) < half)
    (hhi : budg.toInt ≤ (s.share s.budgetCap j).toNat) :
    0 ≤ (s.clampAdd j budg).toInt ∧
    (s.clampAdd j budg).toInt ≤ (s.share s.creds j).toNat ∧
    budg.toInt + (s.clampAdd j budg).toInt ≤ (s.share s.budgetCap j).toNat := by
  have hc := budgetShare_le s.budgetCap (UInt32.ofNat j) s.fpCoresMax
  have hg := budgetShare_le s.creds (UInt32.ofNat j) s.fpCoresMax
  unfold clampAdd
  unfold share at hhi ⊢
  dsimp only
  generalize budgetShare s.budgetCap (UInt32.ofNat j) s.fpCoresMax = c at hc hhi ⊢
  generalize budgetShare s.creds (UInt32.ofNat j) s.fpCoresMax = g at hg ⊢
  have hcv : c.toInt64.toInt = c.toNat := toInt64_toInt (by omega)
  have hgv : g.toInt64.toInt = g.toNat := toInt64_toInt (by omega)
  have hdiff : (c.toInt64 - g.toInt64).toInt = (c.toNat : Int) - g.toNat := by
    rw [toInt_sub_of_range (by unfold half at *; omega) (by unfold half at *; omega), hcv, hgv]
  by_cases hfull : budg ≥ c.toInt64
  · rw [if_pos hfull]
    have hzero : (0 : Int64).toInt = 0 := rfl
    rw [hzero]
    omega
  · rw [if_neg hfull]
    have hbelow := Int64.lt_iff_toInt_lt.mp (Int64.not_le.mp hfull)
    rw [hcv] at hbelow
    by_cases hnear : budg > c.toInt64 - g.toInt64
    · -- only what is missing to the share
      have hnear' := Int64.lt_iff_toInt_lt.mp hnear
      rw [hdiff] at hnear'
      rw [if_pos hnear, toInt_sub_of_range (by unfold half at *; omega)
        (by unfold half at *; omega), hcv]
      omega
    · have hfar := Int64.le_iff_toInt_le.mp (Int64.not_lt.mp hnear)
      rw [hdiff] at hfar
      rw [if_neg hnear, hgv]
      omega

/-! ## Every run -/

/-- The control plane before its first guest. -/
def start (perfIso : Bool) (fpCoresMax : UInt32) (budgetCap : UInt64) : BudgetSys :=
  { perfIso, fpCoresMax, budgetCap, nGuests := 0, budgets := fun _ _ => 0, refresh := none,
    creds := 0, given := fun _ _ => 0 }

/-- A control plane without guests. -/
structure Init (s : BudgetSys) : Prop where
  guests : s.nGuests = 0
  idle : s.refresh = none
  creds : s.creds = 0
  given : s.given = fun _ _ => 0

/-- What is assumed of the steps: the credits fit a signed number, and no
charge takes a counter below its depth. -/
def Ok (s : BudgetSys) : BudgetAct → Prop
  | .refresh credsAdd => (credsAdd.toNat : Int) < half
  | .charge i j cyc => -depth ≤ (s.budgets i j).toInt - cyc.toNat
  | .accept => True
  | .control => True

instance (s : BudgetSys) : (a : BudgetAct) → Decidable (Ok s a)
  | .refresh credsAdd => inferInstanceAs (Decidable ((credsAdd.toNat : Int) < half))
  | .charge i j cyc => inferInstanceAs (Decidable (-depth ≤ (s.budgets i j).toInt - cyc.toNat))
  | .accept => inferInstanceAs (Decidable True)
  | .control => inferInstanceAs (Decidable True)

/-- The amount that is about to be added keeps all bounds. -/
structure AddOk (s : BudgetSys) (r : RefreshAt) (a : Int64) : Prop where
  nonneg : 0 ≤ a.toInt
  credit : a.toInt ≤ (s.share s.creds r.core).toNat
  fits : (s.budgets r.guest r.core).toInt + a.toInt ≤ (s.share s.budgetCap r.core).toNat

/-- Counters stay between their depth and the share of the cap; a refresh in
progress has given at most its share to each counter it passed, and nothing
to those before it. -/
structure Inv (s : BudgetSys) : Prop where
  iso : s.perfIso = true
  nonzero : s.fpCoresMax ≠ 0
  cap : (s.budgetCap.toNat : Int) < half
  creds : (s.creds.toNat : Int) < half
  low : ∀ i j, i < s.nGuests → j < s.cores → -depth ≤ (s.budgets i j).toInt
  high : ∀ i j, i < s.nGuests → j < s.cores →
    (s.budgets i j).toInt ≤ (s.share s.budgetCap j).toNat
  given : ∀ i j, 0 ≤ s.given i j ∧ s.given i j ≤ (s.share s.creds j).toNat
  at_ : ∀ r, s.refresh = some r → r.guest < s.nGuests ∧ r.core < s.cores
  add : ∀ r a, s.refresh = some r → r.guestAdd = some a → AddOk s r a
  ahead : ∀ r, s.refresh = some r → ∀ i j,
    r.guest < i ∨ (i = r.guest ∧ r.core ≤ j) → s.given i j = 0

theorem Init.inv (h : Init s) (hiso : s.perfIso = true) (hnonzero : s.fpCoresMax ≠ 0)
    (hcap : (s.budgetCap.toNat : Int) < half) : Inv s where
  iso := hiso
  nonzero := hnonzero
  cap := hcap
  creds := by
    rw [h.creds]
    decide
  low i j hi := by
    rw [h.guests] at hi
    exact absurd hi (Nat.not_lt_zero i)
  high i j hi := by
    rw [h.guests] at hi
    exact absurd hi (Nat.not_lt_zero i)
  given i j := by
    rw [h.given]
    exact ⟨Int.le_refl 0, Int.natCast_nonneg _⟩
  at_ r hr := by
    rw [h.idle] at hr
    cases hr
  add r a hr := by
    rw [h.idle] at hr
    cases hr
  ahead r hr := by
    rw [h.idle] at hr
    cases hr

theorem Inv.accept (h : Inv s) : Inv s.acceptGuest := by
  unfold acceptGuest
  split
  · exact h
  · next hidle =>
    have hnone : s.refresh = none := Option.not_isSome_iff_eq_none.mp hidle
    have hfirst : ∀ j, (s.firstBudget j).toInt = (s.share s.budgetCap j).toNat := by
      intro j
      have hle := budgetShare_le s.budgetCap (UInt32.ofNat j) s.fpCoresMax
      have hcap := h.cap
      unfold firstBudget
      rw [if_pos h.iso]
      refine toInt64_toInt ?_
      unfold share
      omega
    refine ⟨h.iso, h.nonzero, h.cap, h.creds, ?_, ?_, h.given, ?_, ?_, ?_⟩
    · intro i j hi hj
      dsimp only at hi hj ⊢
      split
      · rw [hfirst]
        unfold depth
        omega
      · next hne => exact h.low i j (by have : ¬ (i = s.nGuests) := fun he => hne ⟨he, hj⟩; omega) hj
    · intro i j hi hj
      dsimp only at hi hj ⊢
      split
      · exact Int.le_of_eq (hfirst j)
      · next hne => exact h.high i j (by have : ¬ (i = s.nGuests) := fun he => hne ⟨he, hj⟩; omega) hj
    · intro r hr
      exact nomatch hnone.symm.trans hr
    · intro r a hr
      exact nomatch hnone.symm.trans hr
    · intro r hr
      exact nomatch hnone.symm.trans hr

theorem Inv.start (h : Inv s) {credsAdd : UInt64} (hc : (credsAdd.toNat : Int) < half) :
    Inv (s.controlBudgetRefresh credsAdd) := by
  unfold controlBudgetRefresh
  split
  · exact h
  · next hgo =>
    refine ⟨h.iso, h.nonzero, h.cap, hc, h.low, h.high, ?_, ?_, ?_, ?_⟩
    · intro i j
      exact ⟨Int.le_refl 0, Int.natCast_nonneg _⟩
    · intro r hr
      cases hr
      have hg : ¬ s.nGuests = 0 := fun he => hgo (.inr (.inl he))
      have hcores : ¬ s.cores = 0 := fun he => hgo (.inr (.inr he))
      exact ⟨Nat.pos_of_ne_zero hg, Nat.pos_of_ne_zero hcores⟩
    · intro r a hr ha
      cases hr
      cases ha
    · intro r hr i j _
      rfl

/-- A charge only lowers a counter, so an amount that was decided on still
fits. -/
theorem Inv.charge (h : Inv s) {i j : Nat} {cyc : UInt64}
    (hok : -depth ≤ (s.budgets i j).toInt - cyc.toNat) : Inv (s.fastBudgCharge i j cyc) := by
  have hval := toInt_charge hok
  have hle : ∀ a b, ((s.fastBudgCharge i j cyc).budgets a b).toInt ≤ (s.budgets a b).toInt := by
    intro a b
    unfold fastBudgCharge setBudget
    dsimp only
    split
    · next hab =>
      rw [hval, hab.1, hab.2]
      omega
    · exact Int.le_refl _
  refine ⟨h.iso, h.nonzero, h.cap, h.creds, ?_, ?_, h.given, h.at_, ?_, h.ahead⟩
  · intro a b ha hb
    unfold fastBudgCharge setBudget
    dsimp only
    split
    · rw [hval]
      exact hok
    · exact h.low a b ha hb
  · intro a b ha hb
    exact Int.le_trans (hle a b) (h.high a b ha hb)
  · intro r a hr ha
    have hadd := h.add r a hr ha
    exact ⟨hadd.nonneg, hadd.credit,
      Int.le_trans (Int.add_le_add_right (hle r.guest r.core) a.toInt) hadd.fits⟩

/-- The position after `r`, if there is one, is the next in order. -/
theorem advance_spec {r r' : RefreshAt} (h : s.advance r = some r') (hcores : 0 < s.cores)
    (hg : r.guest < s.nGuests) :
    r'.guestAdd = none ∧ r'.guest < s.nGuests ∧ r'.core < s.cores ∧
    ∀ i j, r'.guest < i ∨ (i = r'.guest ∧ r'.core ≤ j) →
      (r.guest < i ∨ (i = r.guest ∧ r.core ≤ j)) ∧ ¬ (i = r.guest ∧ j = r.core) := by
  unfold advance at h
  split at h
  · next hc =>
    cases h
    refine ⟨rfl, hg, hc, ?_⟩
    intro i j hij
    dsimp only at hij
    constructor
    · rcases hij with h₁ | ⟨h₁, h₂⟩
      · exact .inl h₁
      · exact .inr ⟨h₁, by omega⟩
    · rintro ⟨h₁, h₂⟩
      omega
  · split at h
    · next hc =>
      cases h
      refine ⟨rfl, hc, hcores, ?_⟩
      intro i j hij
      dsimp only at hij
      constructor
      · exact .inl (by omega)
      · rintro ⟨h₁, h₂⟩
        omega
    · cases h

/-- One atomic step of the refresh: a counter is read and the amount decided
on, or the amount is added. -/
theorem controlBudgetRefreshNext_cases (h : Inv s) :
    (s.refresh = none ∧ s.controlBudgetRefreshNext = s) ∨
    (∃ r, s.refresh = some r ∧ r.guestAdd = none ∧ s.controlBudgetRefreshNext =
      { s with refresh := some { r with
          guestAdd := some (s.clampAdd r.core (s.budgets r.guest r.core)) } }) ∨
    (∃ r a, s.refresh = some r ∧ r.guestAdd = some a ∧ s.controlBudgetRefreshNext =
      { s.setBudget r.guest r.core (s.budgets r.guest r.core + a) with
        refresh := s.advance r
        given := fun i j =>
          if i = r.guest ∧ j = r.core then s.given i j + a.toInt else s.given i j }) := by
  unfold controlBudgetRefreshNext
  cases hr : s.refresh with
  | none => exact .inl ⟨rfl, rfl⟩
  | some r =>
    dsimp only
    rw [if_pos h.iso]
    cases ha : r.guestAdd with
    | none => exact .inr (.inl ⟨r, rfl, ha, rfl⟩)
    | some a => exact .inr (.inr ⟨r, a, rfl, ha, rfl⟩)

/-- The addition is exact. -/
theorem add_exact (h : Inv s) {r : RefreshAt} {a : Int64} (hr : s.refresh = some r)
    (ha : r.guestAdd = some a) :
    (s.budgets r.guest r.core + a).toInt = (s.budgets r.guest r.core).toInt + a.toInt := by
  obtain ⟨hg, hc⟩ := h.at_ r hr
  have hadd := h.add r a hr ha
  have hlow := h.low r.guest r.core hg hc
  have hcap := h.cap
  have hle := budgetShare_le s.budgetCap (UInt32.ofNat r.core) s.fpCoresMax
  have h₁ := hadd.nonneg
  have h₂ := hadd.fits
  unfold share at h₂
  unfold half depth at *
  exact toInt_add_of_range (by unfold half; omega) (by unfold half; omega)

theorem Inv.control (h : Inv s) : Inv s.controlBudgetRefreshNext := by
  rcases controlBudgetRefreshNext_cases h with
    ⟨-, heq⟩ | ⟨r, hr, hnone, heq⟩ | ⟨r, a, hr, ha, heq⟩
  · rw [heq]
    exact h
  · obtain ⟨hg, hc⟩ := h.at_ r hr
    obtain ⟨h₁, h₂, h₃⟩ := clampAdd_spec h.cap h.creds
      (h.high r.guest r.core hg hc)
    rw [heq]
    refine ⟨h.iso, h.nonzero, h.cap, h.creds, h.low, h.high, h.given, ?_, ?_, ?_⟩
    · intro r' hr'
      cases hr'
      exact ⟨hg, hc⟩
    · intro r' a' hr' ha'
      cases hr'
      cases ha'
      exact ⟨h₁, h₂, h₃⟩
    · intro r' hr'
      cases hr'
      exact h.ahead r hr
  · obtain ⟨hg, hc⟩ := h.at_ r hr
    have hadd := h.add r a hr ha
    have hexact := add_exact h hr ha
    have hzero := h.ahead r hr r.guest r.core (.inr ⟨rfl, Nat.le_refl _⟩)
    have hcores : 0 < s.cores := by omega
    rw [heq]
    refine ⟨h.iso, h.nonzero, h.cap, h.creds, ?_, ?_, ?_, ?_, ?_, ?_⟩
    · intro i j hi hj
      unfold setBudget
      dsimp only
      split
      · have := h.low r.guest r.core hg hc
        have := hadd.nonneg
        rw [hexact]
        omega
      · exact h.low i j hi hj
    · intro i j hi hj
      unfold setBudget
      dsimp only
      split
      · next hij =>
        rw [hexact, hij.2]
        exact hadd.fits
      · exact h.high i j hi hj
    · intro i j
      dsimp only
      split
      · next hij =>
        rw [hij.1, hij.2, hzero, Int.zero_add]
        exact ⟨hadd.nonneg, hadd.credit⟩
      · exact h.given i j
    · intro r' hr'
      obtain ⟨-, hg', hc', -⟩ := advance_spec hr' hcores hg
      exact ⟨hg', hc'⟩
    · intro r' a' hr' ha'
      obtain ⟨hnone, -, -, -⟩ := advance_spec hr' hcores hg
      rw [hnone] at ha'
      cases ha'
    · intro r' hr' i j hij
      obtain ⟨-, -, -, horder⟩ := advance_spec hr' hcores hg
      obtain ⟨hahead, hne⟩ := horder i j hij
      dsimp only
      rw [if_neg hne]
      exact h.ahead r hr i j hahead

theorem Inv.step (h : Inv s) {a : BudgetAct} (hok : Ok s a) : Inv (s.step a).1 := by
  cases a with
  | accept => exact h.accept
  | refresh credsAdd => exact h.start hok
  | control => exact h.control
  | charge i j cyc => exact h.charge hok

/-- A step of the refresh never lowers a counter, and the counter moves by
what the refresh counts as given. -/
theorem controlBudgetRefreshNext_given (h : Inv s) (i j : Nat) :
    s.given i j ≤ s.controlBudgetRefreshNext.given i j ∧
    (s.controlBudgetRefreshNext.budgets i j).toInt =
      (s.budgets i j).toInt + (s.controlBudgetRefreshNext.given i j - s.given i j) := by
  rcases controlBudgetRefreshNext_cases h with
    ⟨-, heq⟩ | ⟨r, hr, -, heq⟩ | ⟨r, a, hr, ha, heq⟩
  · rw [heq]
    omega
  · rw [heq]
    dsimp only
    omega
  · have hexact := add_exact h hr ha
    have hnn := (h.add r a hr ha).nonneg
    rw [heq]
    unfold setBudget
    dsimp only
    split
    · next hij =>
      rw [hexact, hij.1, hij.2]
      omega
    · omega

end BudgetSys

open BudgetSys in
/-- **Budget accounting.** With performance isolation on and at least one
core, in every interleaving of refreshes and charges: no counter passes its
core's share of the cap; a refresh never lowers one and gives it at most its
core's share of the credits; and the shares of the cores are the whole. -/
theorem budget_accounting {s₀ s : BudgetSys} {log : List Unit} (hinit : Init s₀)
    (hiso : s₀.perfIso = true) (hcores : s₀.fpCoresMax ≠ 0)
    (hcap : (s₀.budgetCap.toNat : Int) < half) (hrun : Run Ok step s₀ log s) :
    (∀ i j, i < s.nGuests → j < s.cores →
      (s.budgets i j).toInt ≤ (s.share s.budgetCap j).toNat) ∧
    (∀ i j, 0 ≤ s.given i j ∧ s.given i j ≤ (s.share s.creds j).toNat) ∧
    (∀ i j, s.given i j ≤ s.controlBudgetRefreshNext.given i j ∧
      (s.controlBudgetRefreshNext.budgets i j).toInt =
        (s.budgets i j).toInt + (s.controlBudgetRefreshNext.given i j - s.given i j)) ∧
    (∀ total, ((List.range s.fpCoresMax.toNat).map fun j => (s.share total j).toNat).sum =
      total.toNat) := by
  have hinv : BudgetSys.Inv s := by
    refine hrun.inv (I := fun _ s => BudgetSys.Inv s) (hinit.inv hiso hcores hcap) ?_
    intro _ s a h hok
    exact h.step hok
  exact ⟨hinv.high, hinv.given, controlBudgetRefreshNext_given hinv,
    fun total => budgetShare_sum total hinv.nonzero⟩

/-- Two cores share a cap of 101. A guest spends 30 cycles on core 0; the
refresh reads 21, the core spends 5 more, and the refresh adds its 10. -/
def chargedBetween : List BudgetAct :=
  [.accept, .charge 0 0 30, .refresh 20, .control, .charge 0 0 5, .control]

open BudgetSys in
theorem budget_accounting_charged_between :
    ((execAll step chargedBetween (start true 2 101)).2.budgets 0 0).toInt = 26 ∧
    ((execAll step chargedBetween (start true 2 101)).2.budgets 0 0).toInt ≤
      ((execAll step chargedBetween (start true 2 101)).2.share 101 0).toNat :=
  ⟨by decide,
    (budget_accounting ⟨rfl, rfl, rfl, rfl⟩ rfl (by decide) (by decide)
      (Run.execOk chargedBetween (Run.nil : Run Ok step (start true 2 101) [] _) (by decide))).1 0 0
      (by decide) (by decide)⟩

open BudgetSys in
/-- Without performance isolation a counter is far above its share, and
without cores the shares are not the whole. -/
theorem not_budget_accounting :
    ((execAll step [.accept] (start false 1 100)).2.share 100 0).toNat <
      ((execAll step [.accept] (start false 1 100)).2.budgets 0 0).toInt ∧
    ((List.range (0 : UInt32).toNat).map fun j =>
      (budgetShare 1 (UInt32.ofNat j) 0).toNat).sum ≠ (1 : UInt64).toNat := by
  decide

end Chamelio.Control.Budget
