import Mathlib
import TableQuery.Proofs.Decimal.DigitOrder
import TableQuery.Proofs.Rows.ExtendedFloats

namespace TableQuery

open Float.Model FloatOrder FloatValues Rounding

namespace Decimal

section Scientific

variable {n : Nat}

theorem powerOfTen_exact {e : Nat} (he : e < Float.exactlyRepresentablePowersOfTen.size) :
    (Float.exactlyRepresentablePowersOfTen[e]).isFinite = true ∧
      valueOf Float.exactlyRepresentablePowersOfTen[e] = 10 ^ e := by
  have hall : ∀ (i : Nat) (h : i < Float.exactlyRepresentablePowersOfTen.size),
      integer? Float.exactlyRepresentablePowersOfTen[i] = some (10 ^ i) := by
    decide +kernel
  have hint := integer?_eq_some_iff.mp (hall e he)
  push_cast at hint
  exact hint

theorem natural_exact (hn : 0 < n) (hb : n < 2 ^ 53) :
    n.toUInt64.toFloat.isFinite = true ∧ valueOf n.toUInt64.toFloat = n := by
  have hu : n.toUInt64.toFloat.toModel.unpack = _ := FloatIntegers.unpack_ofUInt64 hn hb
  have hf : n.toUInt64.toFloat.isFinite = true := by
    change n.toUInt64.toFloat.toModel.unpack.isFinite = true
    rw [hu]
    rfl
  have hl : n.log2 < 53 := (Nat.log2_lt hn.ne').mpr hb
  have he : (n.log2 : ℤ) - 52 = -((52 - n.log2 : Nat) : ℤ) := by omega
  refine ⟨hf, ?_⟩
  rw [valueOf_eq_rational hf, hu, rational_eq, he, zpow_neg, zpow_natCast]
  push_cast
  exact mul_inv_cancel_right₀ (by positivity) _

theorem two_zpow_le_ten_zpow {e : ℤ} (he : 0 ≤ e) : (2 : ℚ) ^ (3 * e) ≤ 10 ^ e := by
  rw [zpow_mul]
  exact zpow_le_zpow_left₀ he (by positivity) (by norm_num)

theorem ten_zpow_le_two_zpow {e : ℤ} (he : e ≤ 0) : (10 : ℚ) ^ e ≤ 2 ^ (3 * e) := by
  have hinv := inv_anti₀ (by positivity) (two_zpow_le_ten_zpow (neg_nonneg.mpr he))
  rwa [zpow_neg, inv_inv, mul_neg, zpow_neg, inv_inv] at hinv

theorem overflow_le_scientific (hn : 0 < n) {e : ℤ} (he : 342 ≤ e) : overflow ≤ n * 10 ^ e :=
  calc overflow ≤ 2 ^ (3 * e) := zpow_le_zpow_right₀ one_le_two (by omega)
    _ ≤ 10 ^ e := two_zpow_le_ten_zpow (by omega)
    _ ≤ n * 10 ^ e := le_mul_of_one_le_left (by positivity) (Nat.one_le_cast.mpr hn)

theorem scientific_le_tiny {k : Nat} (hn : n ≤ 10 ^ k) {e : ℤ} (he : k + e ≤ -359) :
    (n : ℚ) * 10 ^ e ≤ 2 ^ (-1075 : ℤ) :=
  calc (n : ℚ) * 10 ^ e ≤ 10 ^ k * 10 ^ e := by
        have hcast : (n : ℚ) ≤ 10 ^ k := by exact_mod_cast hn
        gcongr
    _ = 10 ^ (k + e) := by rw [zpow_add₀ (by norm_num), zpow_natCast]
    _ ≤ 2 ^ (3 * (k + e)) := ten_zpow_le_two_zpow (by omega)
    _ ≤ 2 ^ (-1075 : ℤ) := zpow_le_zpow_right₀ one_le_two (by omega)

theorem extendedOf_scaled_up (hn : 0 < n) {e : ℤ} (he : 0 ≤ e) {h h'} :
    extendedOf (.ofModel (.pack (UnpackedFloat.mul .binary64
      (.finite .positive (n <<< Format.binary64.mantissaBits) (-Format.binary64.mantissaBits) h)
      (.finite .positive (10 ^ e.toNat) 0 h')))) = boundedMagnitude (n * 10 ^ e) := by
  obtain ⟨k, rfl⟩ := Int.eq_ofNat_of_zero_le he
  have hbits : n <<< Format.binary64.mantissaBits = n * 2 ^ 53 := Nat.shiftLeft_eq ..
  have hlead : 2 ^ 52 ≤ n * 2 ^ 53 * 10 ^ k := by
    have h53 : 2 ^ 53 ≤ n * 2 ^ 53 := Nat.le_mul_of_pos_left _ hn
    have hmul : n * 2 ^ 53 ≤ n * 2 ^ 53 * 10 ^ k := Nat.le_mul_of_pos_right _ (by positivity)
    omega
  have hv : ((n * 2 ^ 53 : Nat) : ℚ) * 2 ^ (-(53 : Nat) : ℤ) * ((10 ^ k : Nat) * 2 ^ (0 : ℤ)) =
      n * 10 ^ (k : ℤ) := by
    rw [zpow_neg, zpow_natCast, Nat.cast_mul, Nat.cast_pow, Nat.cast_two,
      mul_inv_cancel_right₀ (by positivity)]
    simp
  have hr := represents_mul .positive .positive (e := -(53 : Nat)) (f := 0)
    (Nat.mul_pos hn (Nat.two_pow_pos 53)) (by positivity : 0 < 10 ^ k) (.inl hlead)
  rw [hv] at hr
  simp only [hbits, Int.toNat_natCast]
  exact extendedOf_pack_positive hr

theorem extendedOf_scaled_down (hn : 0 < n) {e : ℤ} (he : e ≤ 0) {h'} :
    extendedOf (.ofModel (.pack (UnpackedFloat.div .binary64 (.finite .positive n 0 hn)
      (.finite .positive (10 ^ (-e).toNat) 0 h')))) = boundedMagnitude (n * 10 ^ e) := by
  obtain ⟨k, hk⟩ := Int.eq_ofNat_of_zero_le (neg_nonneg.mpr he)
  obtain rfl : e = -(k : ℤ) := by omega
  have hv : (n : ℚ) * 2 ^ (0 : ℤ) / ((10 ^ k : Nat) * 2 ^ (0 : ℤ)) = n * 10 ^ (-(k : ℤ)) := by
    rw [zpow_neg, zpow_natCast]
    push_cast
    field_simp
  have hr := represents_div .positive .positive (e := 0) (f := 0) hn (by positivity : 0 < 10 ^ k)
  rw [hv] at hr
  simp only [neg_neg, Int.toNat_natCast]
  exact extendedOf_pack_positive hr

theorem extendedOf_model_scientific (hn : 0 < n) (e : ℤ) :
    extendedOf (.ofModel (Float.Model.ofScientific n e)) = boundedMagnitude (n * 10 ^ e) := by
  have hpos : (0 : ℚ) ≤ n * 10 ^ e := by positivity
  have hdigits : n ≤ 10 ^ (n.log2 + 1) :=
    Nat.lt_log2_self.le.trans (Nat.pow_le_pow_left (by decide) _)
  unfold Float.Model.ofScientific UnpackedFloat.ofScientific
  rw [dif_neg hn.ne']
  by_cases hlarge : e > 2 ^ 11
  · rw [if_pos hlarge, boundedMagnitude_huge (overflow_le_scientific hn (by omega))]
    rfl
  · rw [if_neg hlarge]
    by_cases hsmall : e < -((2 ^ 11 : ℤ) + n.log2)
    · rw [if_pos hsmall, boundedMagnitude_tiny hpos (scientific_le_tiny hdigits (by omega))]
      rfl
    · rw [if_neg hsmall]
      by_cases hsign : 0 ≤ e
      · rw [if_pos hsign]
        exact extendedOf_scaled_up hn hsign
      · rw [if_neg hsign]
        exact extendedOf_scaled_down hn (not_le.mp hsign).le

theorem extendedOf_ofScientific (hn : 0 < n) (negative : Bool) (k : Nat) :
    extendedOf (OfScientific.ofScientific n negative k) =
      boundedMagnitude (n * 10 ^ (if negative then -(k : ℤ) else k)) := by
  change extendedOf (Float.ofScientific n negative k) = _
  unfold Float.ofScientific
  split
  · next h =>
      have hk : k < Float.exactlyRepresentablePowersOfTen.size := by
        change k < 23
        omega
      obtain ⟨hfx, hvx⟩ := natural_exact hn h.1
      obtain ⟨hfy, hvy⟩ := powerOfTen_exact hk
      have hpx : 0 < valueOf n.toUInt64.toFloat := by
        rw [hvx]
        exact_mod_cast hn
      have hpy : 0 < valueOf Float.exactlyRepresentablePowersOfTen[k] := by
        rw [hvy]
        positivity
      cases negative with
      | false =>
          have hmul := extendedOf_mul hfx hfy hpx hpy
          rw [hvx, hvy] at hmul
          simpa using hmul
      | true =>
          have hdiv := extendedOf_div hfx hfy hpx hpy
          rw [hvx, hvy, div_eq_mul_inv] at hdiv
          simpa using hdiv
  · cases negative with
    | false => exact extendedOf_model_scientific hn k
    | true =>
        have he : Int.negOfNat k = -(k : ℤ) := Int.negOfNat_eq
        simp only [if_true, he]
        exact extendedOf_model_scientific hn (-(k : ℤ))

theorem extendedOf_ofNat (n : Nat) : extendedOf (Float.ofNat n) = boundedMagnitude n := by
  rcases Nat.eq_zero_or_pos n with rfl | hn
  · rw [Nat.cast_zero, boundedMagnitude_zero]
    rfl
  · have h := extendedOf_ofScientific hn false 0
    simp only [Bool.false_eq_true, if_false, Nat.cast_zero, zpow_zero, mul_one] at h
    exact h

theorem extendedOf_intToFloat (n : ℤ) : extendedOf (intToFloat n) = boundedValue n := by
  unfold intToFloat
  split
  · next hn =>
      have habs : (n : ℚ) = -(n.natAbs : ℚ) := by
        rw [Nat.cast_natAbs, abs_of_neg hn]
        simp
      rw [extendedOf_neg (isNaN_ofNat _), extendedOf_ofNat, habs, boundedValue_neg,
        boundedValue_of_nonneg (Nat.cast_nonneg _)]
  · next hn =>
      have habs : (n : ℚ) = (n.natAbs : ℚ) := by
        rw [Nat.cast_natAbs, abs_of_nonneg (not_lt.mp hn)]
      rw [extendedOf_ofNat, habs, boundedValue_of_nonneg (Nat.cast_nonneg _)]

end Scientific

section Numerals

variable {p : Parts} {text : List Char} {x : Float}

theorem digits_readParts (h : readParts text = some p) :
    ∀ c ∈ p.whole ++ p.fraction, c.isDigit = true := by
  have htake (cs : List Char) : ∀ c ∈ cs.takeWhile Char.isDigit, c.isDigit = true :=
    fun c hc => List.mem_takeWhile_imp hc
  unfold readParts at h
  dsimp only at h
  split at h <;> split at h
  · cases h
  · obtain ⟨_, -, rfl⟩ := Option.map_eq_some_iff.mp h
    exact List.forall_mem_append.mpr ⟨htake text, htake _⟩
  · cases h
  · obtain ⟨_, -, rfl⟩ := Option.map_eq_some_iff.mp h
    exact List.forall_mem_append.mpr ⟨htake text, by simp⟩

theorem extendedOf_toFloat (h : ∀ c ∈ p.whole ++ p.fraction, c.isDigit = true) :
    extendedOf p.toFloat = boundedMagnitude p.value := by
  have hlt := magnitudeOf_lt h
  unfold Parts.toFloat Parts.value
  dsimp only
  generalize magnitudeOf (p.whole ++ p.fraction) = n at hlt
  generalize (p.whole ++ p.fraction).length = k at hlt
  generalize p.exponent - p.fraction.length = e
  split
  · next hz =>
      rw [hz, Nat.cast_zero, zero_mul, boundedMagnitude_zero]
      rfl
  · next hz =>
      have hn := Nat.pos_of_ne_zero hz
      split
      · next hsmall =>
          rw [boundedMagnitude_tiny (by positivity) (scientific_le_tiny hlt.le (by omega))]
          rfl
      · split
        · next hlarge =>
            rw [boundedMagnitude_huge (overflow_le_scientific hn (by omega))]
            rfl
        · rw [extendedOf_ofScientific hn]
          have he : (if e < 0 then -(e.natAbs : ℤ) else e.natAbs) = e := by
            split <;> omega
          simp only [decide_eq_true_eq, he]

theorem readUnsigned_cases (h : readUnsigned text = some x) :
    (∃ p, readParts text = some p ∧ extendedOf x = boundedMagnitude p.value) ∨
      x.isFinite = false := by
  unfold readUnsigned at h
  split at h
  · obtain rfl := Option.some.inj h
    exact .inr rfl
  · obtain rfl := Option.some.inj h
    exact .inr rfl
  · obtain rfl := Option.some.inj h
    exact .inr rfl
  · obtain ⟨p, hp, rfl⟩ := Option.map_eq_some_iff.mp h
    exact .inl ⟨p, hp, extendedOf_toFloat (digits_readParts hp)⟩

theorem Parts.value_nonneg (p : Parts) : 0 ≤ p.value := by
  unfold Parts.value
  positivity

/-- A numeral is read as the number of binary64 that is nearest to it. -/
theorem extendedOf_readFloat {v : ℚ} (h : readFloat text = some x) (hf : x.isFinite = true)
    (hv : value? text = some v) : extendedOf x = boundedValue v := by
  have hparts {rest : List Char} {y : Float} (hy : readUnsigned rest = some y)
      (hfy : y.isFinite = true) :
      ∃ p, readParts rest = some p ∧ extendedOf y = boundedValue p.value := by
    rcases readUnsigned_cases hy with ⟨p, hp, he⟩ | hn
    · exact ⟨p, hp, he.trans (boundedValue_of_nonneg p.value_nonneg).symm⟩
    · rw [hfy] at hn
      cases hn
  unfold readFloat at h
  split at h
  · obtain ⟨p, hp, he⟩ := hparts h hf
    simp only [value?, hp, Option.map_some, Option.some_inj] at hv
    rw [he, hv]
  · obtain ⟨y, hy, rfl⟩ := Option.map_eq_some_iff.mp h
    have hfy := isFinite_of_neg hf
    obtain ⟨p, hp, he⟩ := hparts hy hfy
    simp only [value?, hp, Option.map_some, Option.some_inj] at hv
    rw [extendedOf_neg (isNaN_of_isFinite hfy), he, ← hv, boundedValue_neg]
  · next hplus hminus =>
      obtain ⟨p, hp, he⟩ := hparts h hf
      rw [value?_unsigned hplus hminus, hp, Option.map_some, Option.some_inj] at hv
      rw [he, hv]

end Numerals

end Decimal

namespace Cell

open Decimal (extendedOf)

variable {j k : Json} {x y : Float} {v w : ℚ}

theorem extendedOf_number? (hx : number? j = some x) (hv : value? j = some v) :
    extendedOf x = boundedValue v := by
  cases j with
  | int n =>
      obtain rfl := Option.some.inj hx
      obtain rfl := Option.some.inj hv
      exact Decimal.extendedOf_intToFloat n
  | float y =>
      obtain rfl := Option.some.inj hx
      obtain rfl := Option.some.inj hv
      rw [Decimal.extendedOf_of_isFinite y.finite]
      exact (Decimal.boundedValue_valueOf y.finite).symm
  | str s =>
      obtain ⟨hr, hf⟩ := Option.filter_eq_some_iff.mp hx
      exact Decimal.extendedOf_readFloat hr hf hv
  | _ => cases hx

theorem value_lt_of_reading_lt (hx : number? j = some x) (hy : number? k = some y)
    (hv : value? j = some v) (hw : value? k = some w) (h : x < y) : v < w := by
  have hnx := number?_isNaN hx
  have hny := number?_isNaN hy
  have hlt := (Decimal.lt_iff_extendedOf hnx hny).mp h
  rw [extendedOf_number? hx hv, extendedOf_number? hy hw] at hlt
  exact boundedValue_mono.reflect_lt hlt

end Cell
end TableQuery
