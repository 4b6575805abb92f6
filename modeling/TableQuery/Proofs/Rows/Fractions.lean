import Mathlib
import TableQuery.Proofs.Rows.ExactArithmetic
import TableQuery.Proofs.Rows.ReadNumbers
import TableQuery.Query.Basic

namespace TableQuery

open Decimal Rounding
open Arithmetic (isFraction)

section Constants

theorem valueOf_of_integer? {x : Float} {n : ℤ} (h : integer? x = some n) :
    x.isFinite = true ∧ valueOf x = n := integer?_eq_some_iff.mp h

theorem zero_exact : (0 : Float).isFinite = true ∧ valueOf 0 = 0 := by
  simpa using valueOf_of_integer? (x := 0) (n := 0) (by decide +kernel)

theorem one_exact : (1 : Float).isFinite = true ∧ valueOf 1 = 1 := by
  simpa using valueOf_of_integer? (x := 1) (n := 1) (by decide +kernel)

theorem hundred_exact : (100 : Float).isFinite = true ∧ valueOf 100 = 100 := by
  simpa using valueOf_of_integer? (x := 100) (n := 100) (by decide +kernel)

theorem boundedValue_zero : boundedValue 0 = 0 := by
  simpa [zero_exact.2] using boundedValue_valueOf zero_exact.1

theorem boundedValue_one : boundedValue 1 = 1 := by
  simpa [one_exact.2] using boundedValue_valueOf one_exact.1

end Constants

section Comparison

variable {x y : Float} (hx : x.isFinite = true) (hy : y.isFinite = true)

include hx hy

theorem lt_iff_valueOf : x < y ↔ valueOf x < valueOf y := by
  rw [lt_iff_extendedOf (FloatOrder.isNaN_of_isFinite hx) (FloatOrder.isNaN_of_isFinite hy),
    extendedOf_of_isFinite hx, extendedOf_of_isFinite hy]

theorem le_iff_valueOf : x ≤ y ↔ valueOf x ≤ valueOf y := by
  rw [le_iff_extendedOf (FloatOrder.isNaN_of_isFinite hx) (FloatOrder.isNaN_of_isFinite hy),
    extendedOf_of_isFinite hx, extendedOf_of_isFinite hy]

end Comparison

theorem isFraction_iff {v : ℚ} : isFraction v = true ↔ 0 ≤ v ∧ v ≤ 1 := by
  simp [isFraction]

/-- One number is the other one as binary64 has it. -/
structure RoundsTo (v : ℚ) (x : Float) : Prop where
  isNaN : x.isNaN = false
  value : extendedOf x = boundedValue v

theorem RoundsTo.isFraction {x : Float} {v : ℚ} (h : RoundsTo v x) (hv : isFraction v = true) :
    isFraction x = true := by
  obtain ⟨h0, h1⟩ := isFraction_iff.mp hv
  have hlow : (0 : Float) ≤ x := by
    rw [le_iff_extendedOf (FloatOrder.isNaN_of_isFinite zero_exact.1) h.isNaN,
      extendedOf_of_isFinite zero_exact.1, zero_exact.2, h.value, ← boundedValue_zero]
    exact boundedValue_mono h0
  have hhigh : x ≤ 1 := by
    rw [le_iff_extendedOf h.isNaN (FloatOrder.isNaN_of_isFinite one_exact.1),
      extendedOf_of_isFinite one_exact.1, one_exact.2, h.value, ← boundedValue_one]
    exact boundedValue_mono h1
  simp [Arithmetic.isFraction, hlow, hhigh]

theorem roundsTo_self {x : Float} (hx : x.isFinite = true) : RoundsTo (valueOf x) x :=
  ⟨FloatOrder.isNaN_of_isFinite hx, by rw [extendedOf_of_isFinite hx, boundedValue_valueOf hx]⟩

theorem roundsTo_percent {x : Float} (hx : x.isFinite = true) (hpos : 0 < valueOf x) :
    RoundsTo (valueOf x / 100) (x / 100) := by
  have hpos' : 0 < valueOf (100 : Float) := by
    rw [hundred_exact.2]
    norm_num
  have hdiv := extendedOf_div hx hundred_exact.1 hpos hpos'
  rw [hundred_exact.2] at hdiv
  exact ⟨isNaN_div hx hundred_exact.1 hpos hpos',
    hdiv.trans (boundedValue_of_nonneg (by positivity)).symm⟩

theorem roundsTo_scientific {n k : Nat} (hn : 0 < n) {v : ℚ} (hv : v = n * 10 ^ (-(k : ℤ)))
    (hnan : (OfScientific.ofScientific n true k : Float).isNaN = false) :
    RoundsTo v (OfScientific.ofScientific n true k) := by
  refine ⟨hnan, ?_⟩
  rw [extendedOf_ofScientific hn, hv, boundedValue_of_nonneg (by positivity)]
  rfl

namespace AggregateField

def exactPercent (v : ℚ) : Option ℚ :=
  if 0 ≤ v ∧ v ≤ 1 then some v else if 1 < v ∧ v ≤ 100 then some (v / 100) else none

def exactFraction (a : AggregateField) : Option ℚ :=
  match a.function with
  | .median => some (1 / 2)
  | .p25 => some (1 / 4)
  | .p75 => some (3 / 4)
  | .percentile => a.percentile.bind fun p => exactPercent (valueOf p.val)
  | _ => none

theorem exists_percent {p : FiniteFloat} {x : Float}
    (h : (if 0 ≤ p.val && p.val ≤ 1 then some p.val
      else if 1 < p.val && p.val ≤ 100 then some (p.val / 100) else none) = some x) :
    ∃ v, exactPercent (valueOf p.val) = some v ∧ isFraction v = true ∧ RoundsTo v x := by
  have hp := p.finite
  have hzero := le_iff_valueOf zero_exact.1 hp
  have hone := le_iff_valueOf hp one_exact.1
  have hover := lt_iff_valueOf one_exact.1 hp
  have hhundred := le_iff_valueOf hp hundred_exact.1
  rw [zero_exact.2] at hzero
  rw [one_exact.2] at hone hover
  rw [hundred_exact.2] at hhundred
  simp only [Bool.and_eq_true, decide_eq_true_eq, hzero, hone, hover, hhundred] at h
  unfold exactPercent
  by_cases hfraction : 0 ≤ valueOf p.val ∧ valueOf p.val ≤ 1
  · rw [if_pos hfraction] at h ⊢
    obtain rfl := Option.some.inj h
    exact ⟨_, rfl, isFraction_iff.mpr hfraction, roundsTo_self hp⟩
  · rw [if_neg hfraction] at h ⊢
    by_cases hpercent : 1 < valueOf p.val ∧ valueOf p.val ≤ 100
    · rw [if_pos hpercent] at h ⊢
      obtain rfl := Option.some.inj h
      have hpos : 0 < valueOf p.val := one_pos.trans hpercent.1
      have hle : 0 ≤ valueOf p.val / 100 ∧ valueOf p.val / 100 ≤ 1 :=
        ⟨by positivity, (div_le_one₀ (by norm_num)).mpr hpercent.2⟩
      exact ⟨_, rfl, isFraction_iff.mpr hle, roundsTo_percent hp hpos⟩
    · rw [if_neg hpercent] at h
      cases h

theorem exists_exactFraction {a : AggregateField} {x : Float} (h : a.fraction = some x) :
    ∃ v, a.exactFraction = some v ∧ isFraction v = true ∧ RoundsTo v x := by
  unfold fraction at h
  unfold exactFraction
  cases hf : a.function with
  | median =>
      rw [hf] at h
      obtain rfl := Option.some.inj h
      exact ⟨1 / 2, rfl, isFraction_iff.mpr (by norm_num),
        roundsTo_scientific (n := 5) (k := 1) (by decide) (by norm_num) rfl⟩
  | p25 =>
      rw [hf] at h
      obtain rfl := Option.some.inj h
      exact ⟨1 / 4, rfl, isFraction_iff.mpr (by norm_num),
        roundsTo_scientific (n := 25) (k := 2) (by decide) (by norm_num) rfl⟩
  | p75 =>
      rw [hf] at h
      obtain rfl := Option.some.inj h
      exact ⟨3 / 4, rfl, isFraction_iff.mpr (by norm_num),
        roundsTo_scientific (n := 75) (k := 2) (by decide) (by norm_num) rfl⟩
  | percentile =>
      rw [hf] at h
      obtain ⟨p, hp, hx⟩ := Option.bind_eq_some_iff.mp h
      simp only [hp, Option.bind_some]
      exact exists_percent hx
  | _ =>
      rw [hf] at h
      cases h

theorem isSome_fraction {a : AggregateField} (hf : a.function.isPercentile = true)
    (h : a.function = .percentile → a.fraction.isSome) : a.fraction.isSome := by
  cases hp : a.function with
  | percentile => exact h hp
  | median | p25 | p75 =>
      rw [fraction, hp]
      rfl
  | _ =>
      rw [hp] at hf
      cases hf

end AggregateField

end TableQuery
