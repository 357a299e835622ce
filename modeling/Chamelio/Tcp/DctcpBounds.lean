import Chamelio.Lib.Average
import Chamelio.Tcp.Cc

/-!
# The arithmetic of DCTCP (`protos/tcp/slow/tcp_cc.c`)

The controller scales fractions to `UINT_MAX`, so a fraction times a rate is
a product of two full 32-bit numbers, and the average of the marks is a sum
of two such products. `dctcp_arithmetic_exact` says that all of it comes out
as over the naturals: the sum stays below 2^64 because the two weights add up
to `UINT_MAX`, and every increase tests the room that is left before it adds.

From there the bounds are facts about natural numbers (`Lib.Average`): an
average lies between the values it is of, a reduction does not raise the rate
and an increase does not lower it.
-/

namespace Chamelio.Tcp

open Chamelio.Lib

@[simp] theorem toNat_uintMax : uintMax.toNat = 4294967295 := rfl

theorem toNat_le_uintMax (x : UInt32) : x.toNat ≤ 4294967295 :=
  Nat.le_of_lt_succ x.toNat_lt

theorem le_uintMax (x : UInt32) : x ≤ uintMax :=
  UInt32.le_iff_toNat_le.mpr (toNat_le_uintMax x)

/-- The room above a rate. -/
theorem toNat_uintMax_sub (x : UInt32) : (uintMax - x).toNat = 4294967295 - x.toNat := by
  rw [UInt32.toNat_sub_of_le _ _ (le_uintMax x), toNat_uintMax]

/-! ## The average of the marks -/

/-- The share of marked bytes in units of `UINT_MAX`, the first `rate` of
`dctcp_ecn_rate`. -/
def markedShare (ecnb ackb : UInt32) : UInt64 :=
  (ecnb.toUInt64 * uintMax.toUInt64) / ackb.toUInt64

/-- **The values `dctcp_ecn_rate` goes through** are the exact ones, and the
last one lies between the old average and the new share. -/
structure EcnRateExact (weight prev ecnb ackb : UInt32) : Prop where
  scaled : (ecnb.toUInt64 * uintMax.toUInt64).toNat = ecnb.toNat * 4294967295
  share : (markedShare ecnb ackb).toNat = ecnb.toNat * 4294967295 / ackb.toNat
  new : (markedShare ecnb ackb * weight.toUInt64).toNat =
    (markedShare ecnb ackb).toNat * weight.toNat
  old : (prev.toUInt64 * (uintMax - weight).toUInt64).toNat =
    prev.toNat * (4294967295 - weight.toNat)
  sum : (markedShare ecnb ackb * weight.toUInt64 +
      prev.toUInt64 * (uintMax - weight).toUInt64).toNat =
    (markedShare ecnb ackb).toNat * weight.toNat + prev.toNat * (4294967295 - weight.toNat)
  result : (dctcpEcnRate weight prev ecnb ackb).toNat =
    ((markedShare ecnb ackb).toNat * weight.toNat +
      prev.toNat * (4294967295 - weight.toNat)) / 4294967295
  le_uintMax : dctcpEcnRate weight prev ecnb ackb ≤ uintMax
  lower : min prev.toNat (markedShare ecnb ackb).toNat ≤
    (dctcpEcnRate weight prev ecnb ackb).toNat
  upper : (dctcpEcnRate weight prev ecnb ackb).toNat ≤
    max prev.toNat (markedShare ecnb ackb).toNat

/-- The quotient is taken in 64 bits and does not wrap. -/
theorem toNat_markedShare (ecnb ackb : UInt32) :
    (markedShare ecnb ackb).toNat = ecnb.toNat * 4294967295 / ackb.toNat := by
  unfold markedShare
  rw [UInt64.toNat_div, toNat_mul_wide, UInt32.toNat_toUInt64, toNat_uintMax]

/-- A share fits 32 bits, with no more marked than acknowledged. -/
theorem markedShare_le {ecnb ackb : UInt32} (h : ecnb ≤ ackb) :
    (markedShare ecnb ackb).toNat ≤ 4294967295 := by
  rw [toNat_markedShare]
  exact fraction_le (UInt32.le_iff_toNat_le.mp h)

/-- **The average** is the weighted mean, rounded down twice. -/
theorem dctcpEcnRate_exact {weight prev ecnb ackb : UInt32} (h : ecnb ≤ ackb) :
    EcnRateExact weight prev ecnb ackb := by
  have hshare := markedShare_le h
  have hw := toNat_le_uintMax weight
  have hprev := toNat_le_uintMax prev
  have hnew := toNat_mul_narrow hshare weight
  have hold : (prev.toUInt64 * (uintMax - weight).toUInt64).toNat =
      prev.toNat * (4294967295 - weight.toNat) := by
    rw [toNat_mul_wide, toNat_uintMax_sub]
  have hweights : weight.toNat + (4294967295 - weight.toNat) = 4294967295 := by omega
  -- the two weights share `UINT_MAX`
  have hle : (markedShare ecnb ackb).toNat * weight.toNat +
      prev.toNat * (4294967295 - weight.toNat) ≤ 4294967295 * 4294967295 := by
    have hsum := weightedSum_le (w := weight.toNat) (v := 4294967295 - weight.toNat) hshare hprev
    rw [hweights, Nat.mul_comm weight.toNat, Nat.mul_comm (_ - _)] at hsum
    exact hsum
  have hsum : (markedShare ecnb ackb * weight.toUInt64 +
      prev.toUInt64 * (uintMax - weight).toUInt64).toNat =
      (markedShare ecnb ackb).toNat * weight.toNat +
        prev.toNat * (4294967295 - weight.toNat) := by
    rw [UInt64.toNat_add, hnew, hold]
    exact Nat.mod_eq_of_lt (by omega)
  have hresult : (dctcpEcnRate weight prev ecnb ackb).toNat =
      ((markedShare ecnb ackb).toNat * weight.toNat +
        prev.toNat * (4294967295 - weight.toNat)) / 4294967295 := by
    show ((markedShare ecnb ackb * weight.toUInt64 +
      prev.toUInt64 * (uintMax - weight).toUInt64) / uintMax.toUInt64).toUInt32.toNat = _
    have hdiv : ((markedShare ecnb ackb * weight.toUInt64 +
        prev.toUInt64 * (uintMax - weight).toUInt64) / uintMax.toUInt64).toNat =
        ((markedShare ecnb ackb).toNat * weight.toNat +
          prev.toNat * (4294967295 - weight.toNat)) / 4294967295 := by
      rw [UInt64.toNat_div, hsum, UInt32.toNat_toUInt64, toNat_uintMax]
    rw [toNat_narrow, hdiv]
    rw [hdiv]
    exact Nat.div_le_of_le_mul hle
  have havg : (dctcpEcnRate weight prev ecnb ackb).toNat =
      weightedAvg weight.toNat (4294967295 - weight.toNat)
        (markedShare ecnb ackb).toNat prev.toNat := by
    unfold weightedAvg
    rw [hresult, hweights, Nat.mul_comm weight.toNat, Nat.mul_comm (_ - _)]
  have hpos : 0 < weight.toNat + (4294967295 - weight.toNat) := by omega
  refine ⟨by rw [toNat_mul_wide, toNat_uintMax], toNat_markedShare ecnb ackb, hnew, hold, hsum,
    hresult, le_uintMax _, ?_, ?_⟩
  · rw [havg, Nat.min_comm]
    exact min_le_weightedAvg hpos _ _
  · rw [havg, Nat.max_comm]
    exact weightedAvg_le_max _ _ _ _

/-! ## The steps of the rate -/

/-- Slow start stops at the largest rate. -/
theorem toNat_dctcpDouble (rate : UInt32) :
    (dctcpDouble rate).toNat = stepUp 4294967295 rate.toNat rate.toNat := by
  have hle := toNat_le_uintMax rate
  have htwo : (rate.toUInt64 * 2).toNat = rate.toNat * 2 := by
    rw [UInt64.toNat_mul, UInt32.toNat_toUInt64, show (2 : UInt64).toNat = 2 from rfl]
    exact Nat.mod_eq_of_lt (by omega)
  unfold dctcpDouble
  rw [stepUp_eq hle]
  by_cases hfits : rate.toNat * 2 ≤ 4294967295
  · rw [if_pos (by
      rw [UInt64.le_iff_toNat_le, htwo]
      exact hfits), if_neg (by omega), UInt32.toNat_mul, show (2 : UInt32).toNat = 2 from rfl]
    omega
  · rw [if_neg (by
      rw [UInt64.le_iff_toNat_le, htwo]
      exact hfits), if_pos (by omega)]
    rfl

/-- Half of the marked share is taken off, in 64 bits. -/
theorem toNat_dctcpReduce (rate ecnRate : UInt32) :
    (dctcpReduce rate ecnRate).toNat =
      rate.toNat * (4294967295 - ecnRate.toNat / 2) / 4294967295 := by
  have hval : ((rate.toUInt64 * (uintMax - ecnRate / 2).toUInt64) / uintMax.toUInt64).toNat =
      rate.toNat * (4294967295 - ecnRate.toNat / 2) / 4294967295 := by
    rw [UInt64.toNat_div, toNat_mul_wide, toNat_uintMax_sub, UInt32.toNat_div,
      UInt32.toNat_toUInt64, toNat_uintMax]
    rfl
  unfold dctcpReduce
  rw [toNat_narrow, hval]
  rw [hval]
  exact Nat.le_trans (scale_le (Nat.sub_le _ _) _) (toNat_le_uintMax rate)

/-- A step that does not wrap. -/
theorem toNat_dctcpAdditive (rate step : UInt32) :
    (dctcpAdditive rate step).toNat = stepUp 4294967295 rate.toNat step.toNat := by
  have hle := toNat_le_uintMax rate
  have htest : uintMax - rate < step ↔ 4294967295 - rate.toNat < step.toNat := by
    rw [UInt32.lt_iff_toNat_lt, toNat_uintMax_sub]
  unfold dctcpAdditive
  simp only [stepUp_eq hle, htest]
  split
  next => rfl
  next hroom =>
    rw [UInt32.toNat_add]
    omega

/-- A relative step that does not wrap. -/
theorem toNat_dctcpMultiplicative (rate mimd : UInt32) :
    (dctcpMultiplicative rate mimd).toNat =
      stepUp 4294967295 rate.toNat (rate.toNat * mimd.toNat / 4294967295) := by
  have hle := toNat_le_uintMax rate
  have hstep : ((rate.toUInt64 * mimd.toUInt64) / uintMax.toUInt64).toNat =
      rate.toNat * mimd.toNat / 4294967295 := by
    rw [UInt64.toNat_div, toNat_mul_wide, UInt32.toNat_toUInt64, toNat_uintMax]
  have htest : (rate.toUInt64 * mimd.toUInt64) / uintMax.toUInt64 > (uintMax - rate).toUInt64 ↔
      4294967295 - rate.toNat < rate.toNat * mimd.toNat / 4294967295 := by
    rw [gt_iff_lt, UInt64.lt_iff_toNat_lt, hstep, UInt32.toNat_toUInt64, toNat_uintMax_sub]
  unfold dctcpMultiplicative
  simp only [stepUp_eq hle, htest]
  split
  next => rfl
  next hroom =>
    have hsum : (rate.toUInt64 + (rate.toUInt64 * mimd.toUInt64) / uintMax.toUInt64).toNat =
        rate.toNat + rate.toNat * mimd.toNat / 4294967295 := by
      rw [UInt64.toNat_add, hstep, UInt32.toNat_toUInt64]
      exact Nat.mod_eq_of_lt (by omega)
    rw [toNat_narrow, hsum]
    rw [hsum]
    omega

/-- **The steps of the rate** are the exact ones, stopped at `UINT_MAX`, each
in its direction. -/
structure RateStepsExact (rate : UInt32) : Prop where
  double : (dctcpDouble rate).toNat = min 4294967295 (rate.toNat + rate.toNat)
  double_ge : rate ≤ dctcpDouble rate
  reduce : ∀ ecnRate, (dctcpReduce rate ecnRate).toNat =
    rate.toNat * (4294967295 - ecnRate.toNat / 2) / 4294967295
  reduce_le : ∀ ecnRate, dctcpReduce rate ecnRate ≤ rate
  additive : ∀ step, (dctcpAdditive rate step).toNat = min 4294967295 (rate.toNat + step.toNat)
  additive_ge : ∀ step, rate ≤ dctcpAdditive rate step
  multiplicative : ∀ mimd, (dctcpMultiplicative rate mimd).toNat =
    min 4294967295 (rate.toNat + rate.toNat * mimd.toNat / 4294967295)
  multiplicative_ge : ∀ mimd, rate ≤ dctcpMultiplicative rate mimd

/-- **Every step of the rate** is the exact one, cut at the largest rate. -/
theorem rateSteps_exact (rate : UInt32) : RateStepsExact rate := by
  have hle := toNat_le_uintMax rate
  refine ⟨toNat_dctcpDouble rate, ?_, toNat_dctcpReduce rate, fun ecnRate => ?_,
    toNat_dctcpAdditive rate, fun step => ?_, toNat_dctcpMultiplicative rate, fun mimd => ?_⟩
  · rw [UInt32.le_iff_toNat_le, toNat_dctcpDouble]
    exact le_stepUp hle _
  · rw [UInt32.le_iff_toNat_le, toNat_dctcpReduce]
    exact scale_le (Nat.sub_le _ _) _
  · rw [UInt32.le_iff_toNat_le, toNat_dctcpAdditive]
    exact le_stepUp hle _
  · rw [UInt32.le_iff_toNat_le, toNat_dctcpMultiplicative]
    exact le_stepUp hle _

/-- **DCTCP's arithmetic is exact**: no intermediate value of the average of
the marks or of a step of the rate is cut. -/
theorem dctcp_arithmetic_exact :
    (∀ weight prev ecnb ackb : UInt32, 0 < ackb → ecnb ≤ ackb →
      EcnRateExact weight prev ecnb ackb) ∧
    ∀ rate, RateStepsExact rate :=
  ⟨fun _ _ _ _ _ h => dctcpEcnRate_exact h, rateSteps_exact⟩

/-- Everything marked, with the largest average and weight: the products are
the largest there are. -/
theorem dctcp_arithmetic_exact_extreme :
    EcnRateExact uintMax uintMax uintMax uintMax ∧ RateStepsExact uintMax := by
  obtain ⟨hecn, hrate⟩ := dctcp_arithmetic_exact
  exact ⟨hecn uintMax uintMax uintMax uintMax (by decide) (le_uintMax uintMax), hrate uintMax⟩

end Chamelio.Tcp
