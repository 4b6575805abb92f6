import Mathlib
import TableQuery.Proofs.Rows.CellNumbers
import TableQuery.Proofs.Rows.FloatSort
import TableQuery.Rows.Aggregate

namespace TableQuery

open Float.Model FloatOrder

namespace FloatValues

/-- The form in which numbers are unpacked: with a leading bit, or with the least exponent. -/
structure Canonical (m : Nat) (e : Int) : Prop where
  lt : m < 2 ^ 53
  least : -1074 ≤ e
  leading : 2 ^ 52 ≤ m ∨ e = -1074

theorem canonical_unpack {b : BitVec 64} {s : UnpackedFloat.Sign} {m : Nat} {e : Int} {hm : 0 < m}
    (h : UnpackedFloat.unpack .binary64 b = .finite s m e hm) : Canonical m e := by
  have hv := (mantissaField b).isLt
  delta UnpackedFloat.unpack at h
  dsimp only at h
  by_cases he : exponentField b = -1#11
  · rw [if_pos he] at h
    split at h <;> cases h
  · rw [if_neg he] at h
    -- Without an exponent the leading bit is missing, and the exponent is the least one.
    by_cases hs : exponentField b = 0#11
    · rw [if_pos hs] at h
      split at h
      · cases h
      · have hz : (exponentField b).toNat = 0 := congrArg BitVec.toNat hs
        injection h with _ hm' he'
        change (mantissaField b).toNat = m at hm'
        change ((exponentField b).toNat : Int) - ((1023 : Nat) + (52 : Nat)) + 1 = e at he'
        exact ⟨by omega, by omega, .inr (by omega)⟩
    · rw [if_neg hs] at h
      have hz : (exponentField b).toNat ≠ 0 := fun hz => hs (BitVec.eq_of_toNat_eq hz)
      injection h with _ hm' he'
      change (1#1 ++ mantissaField b).toNat = m at hm'
      rw [one_append_mantissa] at hm'
      change ((exponentField b).toNat : Int) - ((1023 : Nat) + (52 : Nat)) = e at he'
      exact ⟨by omega, by omega, .inl (by omega)⟩

/-- What an unpacked number denotes; what is not finite counts as zero. -/
def rational : UnpackedFloat → ℚ
  | .finite s m e _ => (s.apply m : ℤ) * 2 ^ e
  | .zero _ | .infinity _ | .notANumber => 0

section Order

variable {m n : Nat} {e f : Int}

theorem Canonical.lt_of_exponent_lt (hm : Canonical m e) (hn : Canonical n f) (h : e < f) :
    (m : ℚ) * 2 ^ e < n * 2 ^ f := by
  have hle := hm.least
  have hlead : 2 ^ 52 ≤ n := hn.leading.resolve_right (by omega)
  have hpos : (0 : ℚ) < 2 ^ e := by positivity
  calc (m : ℚ) * 2 ^ e < 2 ^ 53 * 2 ^ e := by
        have hlt : (m : ℚ) < 2 ^ 53 := by exact_mod_cast hm.lt
        gcongr
    _ = 2 ^ 52 * 2 ^ (e + 1) := by
        rw [zpow_add₀ two_ne_zero]
        ring
    _ ≤ n * 2 ^ f := by
        have hge : (2 ^ 52 : ℚ) ≤ n := by exact_mod_cast hlead
        have hexp : e + 1 ≤ f := h
        gcongr
        exact one_le_two

theorem compare_magnitudes (hm : Canonical m e) (hn : Canonical n f) :
    (compare e f).then (compare m n) = compare ((m : ℚ) * 2 ^ e) (n * 2 ^ f) := by
  rcases lt_trichotomy e f with h | rfl | h
  · rw [compare_lt_iff_lt.mpr h, compare_lt_iff_lt.mpr (hm.lt_of_exponent_lt hn h)]
    rfl
  · have hpos : (0 : ℚ) < 2 ^ e := by positivity
    rw [compare_eq_iff_eq.mpr rfl, Ordering.eq_then]
    rcases lt_trichotomy m n with h | rfl | h
    · rw [compare_lt_iff_lt.mpr h, compare_lt_iff_lt.mpr (by gcongr)]
    · rw [compare_eq_iff_eq.mpr rfl, compare_eq_iff_eq.mpr rfl]
    · rw [compare_gt_iff_gt.mpr h, compare_gt_iff_gt.mpr (by gcongr)]
  · rw [compare_gt_iff_gt.mpr h, compare_gt_iff_gt.mpr (hn.lt_of_exponent_lt hm h)]
    rfl

theorem compare_neg_values (v w : ℚ) : compare (-v) (-w) = compare w v := by
  simp only [compare, compareOfLessAndEq, neg_lt_neg_iff, neg_inj, eq_comm]

end Order

section Values

variable (m : Nat) (e : Int) (hm : 0 < m)

theorem rational_eq : rational (.finite .positive m e hm) = m * 2 ^ e := by
  simp [rational, UnpackedFloat.Sign.apply]

theorem rational_eq_neg : rational (.finite .negative m e hm) = -(m * 2 ^ e) := by
  simp [rational, UnpackedFloat.Sign.apply]

theorem rational_positive : 0 < rational (.finite .positive m e hm) := by
  rw [rational_eq]
  positivity

theorem rational_negative : rational (.finite .negative m e hm) < 0 := by
  rw [rational_eq_neg, neg_lt_zero]
  positivity

end Values

section SameSign

variable {m n : Nat} {e f : Int} (hm : Canonical m e) (hn : Canonical n f) (hp : 0 < m) (hq : 0 < n)

include hm hn

theorem compare_rank_positive :
    compare (rank (.finite .positive m e hp)) (rank (.finite .positive n f hq)) =
      compare (rational (.finite .positive m e hp)) (rational (.finite .positive n f hq)) := by
  rw [rational_eq, rational_eq, ← compare_magnitudes hm hn]
  simp [rank, List.compare_cons_cons, compare_cast]

theorem compare_rank_negative :
    compare (rank (.finite .negative m e hp)) (rank (.finite .negative n f hq)) =
      compare (rational (.finite .negative m e hp)) (rational (.finite .negative n f hq)) := by
  rw [rational_eq_neg, rational_eq_neg, compare_neg_values, ← compare_magnitudes hn hm]
  simp [rank, List.compare_cons_cons, compare_neg, compare_cast]

end SameSign

/-- What is unpacked from the bits of a finite number. -/
structure Unpacked (u : UnpackedFloat) : Prop where
  finite : u.isFinite = true
  canonical : ∀ s m e hm, u = .finite s m e hm → Canonical m e

theorem compare_rank {u v : UnpackedFloat} (hu : Unpacked u) (hv : Unpacked v) :
    compare (rank u) (rank v) = compare (rational u) (rational v) := by
  cases u with
  | notANumber | infinity => cases hu.finite
  | zero s =>
      cases v with
      | notANumber | infinity => cases hv.finite
      | zero t => rfl
      | finite t n f hn =>
          cases t with
          | negative => exact (compare_gt_iff_gt.mpr (rational_negative n f hn)).symm
          | positive => exact (compare_lt_iff_lt.mpr (rational_positive n f hn)).symm
  | finite s m e hm =>
      have hcm := hu.canonical s m e hm rfl
      cases v with
      | notANumber | infinity => cases hv.finite
      | zero t =>
          cases s with
          | negative => exact (compare_lt_iff_lt.mpr (rational_negative m e hm)).symm
          | positive => exact (compare_gt_iff_gt.mpr (rational_positive m e hm)).symm
      | finite t n f hn =>
          have hcn := hv.canonical t n f hn rfl
          -- Different signs decide; of two numbers of one sign, the magnitudes do.
          have hneg := rational_negative
          have hpos := rational_positive
          cases s <;> cases t
          · exact compare_rank_negative hcm hcn hm hn
          · exact (compare_lt_iff_lt.mpr ((hneg m e hm).trans (hpos n f hn))).symm
          · exact (compare_gt_iff_gt.mpr ((hneg n f hn).trans (hpos m e hm))).symm
          · exact compare_rank_positive hcm hcn hm hn

end FloatValues

namespace Decimal

open FloatValues

/-- The number that a finite number denotes. -/
def valueOf (x : Float) : ℚ := (if isNegative x then -1 else 1) * (Binary.ofFloat x).value

section Parts

variable {x : Float}

theorem ofFloat_of_fields {e m : Nat}
    (he : (exponentField x.toModel.toBits.toBitVec).toNat = e)
    (hm : (mantissaField x.toModel.toBits.toBitVec).toNat = m) :
    Binary.ofFloat x = if e = 0 then ⟨m, -1074⟩ else ⟨leastNormal + m, (e : Int) - 1075⟩ := by
  rw [toNat_exponentField] at he
  rw [toNat_mantissaField] at hm
  subst he hm
  rfl

theorem ofFloat_of_zero {s : UnpackedFloat.Sign} (h : x.toModel.unpack = .zero s) :
    Binary.ofFloat x = ⟨0, -1074⟩ := by
  have hn : x.toModel.unpack.isNaN = false := by rw [h]; rfl
  obtain ⟨-, he, hm⟩ := fields_unpack hn
  change _ = exponentOf x.toModel.unpack at he
  change _ = mantissaOf x.toModel.unpack at hm
  rw [h] at he hm
  rw [ofFloat_of_fields he hm]
  rfl

theorem ofFloat_of_finite {s : UnpackedFloat.Sign} {m : Nat} {e : Int} {hp : 0 < m}
    (h : x.toModel.unpack = .finite s m e hp) : Binary.ofFloat x = ⟨m, e⟩ := by
  have hn : x.toModel.unpack.isNaN = false := by rw [h]; rfl
  have hc := canonical_unpack h
  obtain ⟨-, he, hm⟩ := fields_unpack hn
  change _ = exponentOf x.toModel.unpack at he
  change _ = mantissaOf x.toModel.unpack at hm
  rw [h] at he hm
  rw [ofFloat_of_fields he hm, exponentOf, mantissaOf]
  have hl := hc.lt
  have hb := hc.least
  rcases hc.leading with hlead | rfl
  · rw [if_neg (Nat.not_lt.mpr hlead), if_neg (by omega), leastNormal]
    congr 1 <;> omega
  · by_cases hs : m < 2 ^ 52
    · rw [if_pos hs, if_pos rfl, Nat.mod_eq_of_lt hs]
    · rw [if_neg hs, if_neg (by omega), leastNormal]
      congr 1
      omega

theorem valueOf_eq_rational (hf : x.isFinite = true) : valueOf x = rational x.toModel.unpack := by
  have hs := isNegative_iff (isNaN_of_isFinite hf)
  change x.toModel.unpack.isFinite = true at hf
  rw [valueOf]
  cases hu : x.toModel.unpack with
  | notANumber | infinity => rw [hu] at hf; cases hf
  | zero s => rw [ofFloat_of_zero hu, Binary.value, rational, Nat.cast_zero, zero_mul, mul_zero]
  | finite s m e hp =>
      rw [ofFloat_of_finite hu, Binary.value, rational]
      rw [hu, signOf] at hs
      cases s with
      | negative => simp [hs.mpr rfl, UnpackedFloat.Sign.apply]
      | positive =>
          have hneg : isNegative x = false := Bool.eq_false_iff.mpr fun h => by cases hs.mp h
          simp [hneg, UnpackedFloat.Sign.apply]

end Parts

theorem Binary.value_nonneg (b : Binary) : 0 ≤ b.value := by
  unfold Binary.value
  positivity

theorem Binary.whole?_eq_some_iff {b : Binary} {n : Nat} : b.whole? = some n ↔ b.value = n := by
  obtain ⟨m, e⟩ := b
  rw [whole?, value]
  dsimp only
  obtain ⟨k, rfl | rfl⟩ := e.eq_nat_or_neg
  · have hk : (-(k : Int)).toNat = 0 := by omega
    rw [hk, Int.toNat_natCast, zpow_natCast]
    simp only [Nat.pow_eq, Nat.pow_zero, Nat.mod_one, Nat.div_one, if_true, Option.some_inj]
    norm_cast
  · have hk : (-(k : Int)).toNat = 0 := by omega
    rw [neg_neg, hk, Int.toNat_natCast, zpow_neg, zpow_natCast, ← div_eq_mul_inv,
      div_eq_iff (by positivity)]
    simp only [Nat.pow_eq, Nat.pow_zero, Nat.mul_one]
    norm_cast
    constructor
    · intro h
      split at h
      · next hd =>
          obtain rfl := Option.some.inj h
          exact (Nat.div_mul_cancel (Nat.dvd_of_mod_eq_zero hd)).symm
      · cases h
    · rintro rfl
      rw [Nat.mul_mod_left, if_pos rfl, Nat.mul_div_cancel _ (by positivity)]

section Integers

variable {x : Float} {n : Int}

theorem abs_valueOf (x : Float) : |valueOf x| = (Binary.ofFloat x).value := by
  have hv := (Binary.ofFloat x).value_nonneg
  rw [valueOf, abs_mul, abs_of_nonneg hv]
  split <;> simp

theorem valueOf_eq_iff : valueOf x = n ↔
    ∃ k : Nat, (Binary.ofFloat x).value = k ∧ (if isNegative x then -(k : Int) else k) = n := by
  have hcast (k : Nat) : ((if isNegative x then -(k : Int) else k : Int) : ℚ) =
      (if isNegative x then -1 else 1) * k := by
    split <;> simp
  constructor
  · intro h
    have hk : (Binary.ofFloat x).value = n.natAbs := by
      rw [← abs_valueOf, h, Nat.cast_natAbs, Int.cast_abs]
    refine ⟨n.natAbs, hk, ?_⟩
    have hn := hcast n.natAbs
    rw [← hk] at hn
    exact_mod_cast hn.trans h
  · rintro ⟨k, hk, rfl⟩
    rw [valueOf, hk, hcast]

theorem integer?_eq_some_iff : integer? x = some n ↔ x.isFinite = true ∧ valueOf x = n := by
  unfold integer?
  split
  · next hf =>
      simp only [Option.map_eq_some_iff, Binary.whole?_eq_some_iff, hf, true_and, valueOf_eq_iff]
  · next hf => simp [hf]

end Integers

section Order

variable {x y : Float} (hx : x.isFinite = true) (hy : y.isFinite = true)

include hx in
theorem unpacked_of_isFinite : Unpacked x.toModel.unpack := ⟨hx, fun _ _ _ _ => canonical_unpack⟩

include hx hy

theorem compare_key : compare (key x) (key y) = compare (valueOf x) (valueOf y) := by
  rw [valueOf_eq_rational hx, valueOf_eq_rational hy]
  exact compare_rank (unpacked_of_isFinite hx) (unpacked_of_isFinite hy)

theorem compareFloats_eq : Cell.compareFloats x y = compare (valueOf x) (valueOf y) := by
  rw [Cell.compareFloats_eq_compare_key (isNaN_of_isFinite hx) (isNaN_of_isFinite hy),
    compare_key hx hy]

theorem beq_iff_valueOf_eq : (x == y) = true ↔ valueOf x = valueOf y := by
  rw [beq_iff (isNaN_of_isFinite hx) (isNaN_of_isFinite hy), compare_key hx hy,
    compare_eq_iff_eq]

theorem eq_of_valueOf_eq (h : valueOf x = valueOf y) (hne : valueOf x ≠ 0) : x = y := by
  have hk : key x = key y :=
    Std.LawfulEqOrd.eq_of_compare ((compare_key hx hy).trans (compare_eq_iff_eq.mpr h))
  have hsign {z : Float} (hz : valueOf z ≠ 0) : isNegative z = decide (valueOf z < 0) := by
    have hv : 0 < (Binary.ofFloat z).value := by
      rw [← abs_valueOf]
      exact abs_pos.mpr hz
    rw [valueOf]
    cases isNegative z with
    | true => simpa using hv
    | false => simpa using hv.le
  refine eq_of_key_eq (isNaN_of_isFinite hx) (isNaN_of_isFinite hy) hk ?_
  rw [hsign hne, hsign (h ▸ hne), h]

end Order

end Decimal

namespace Cell

variable {x : Float} {n : Int}

theorem ofNumber_eq_int_iff :
    ofNumber x = .int n ↔ (x.isFinite = true ∧ Decimal.valueOf x = n) ∧ n.natAbs < exactBound := by
  rw [← Decimal.integer?_eq_some_iff]
  unfold ofNumber
  cases h : (Decimal.integer? x).filter fun n => n.natAbs < exactBound with
  | some k =>
      obtain ⟨hk, hlt⟩ := Option.filter_eq_some_iff.mp h
      rw [hk]
      simp only [Json.int.injEq, Option.some_inj]
      constructor
      · rintro rfl
        exact ⟨rfl, by simpa using hlt⟩
      · exact fun h => h.1
  | none =>
      have hne : Json.ofFloat x ≠ .int n := by
        unfold Json.ofFloat
        split <;> simp
      rw [Option.filter_eq_none_iff] at h
      simp only [hne, false_iff, not_and]
      intro hn
      simpa using h n hn

theorem value?_ofNumber (hf : x.isFinite = true) : value? (ofNumber x) = some (Decimal.valueOf x) := by
  cases h : (Decimal.integer? x).filter fun n => n.natAbs < exactBound with
  | some n =>
      have hn : ofNumber x = .int n := by rw [ofNumber, h]
      rw [hn, (ofNumber_eq_int_iff.mp hn).1.2]
      rfl
  | none =>
      have hx : ofNumber x = .float ⟨x, hf⟩ := by rw [ofNumber, h, Json.ofFloat, dif_pos hf]
      rw [hx]
      rfl

/-- Only numbers that are not finite are written as null. -/
theorem ofNumber_eq_null_iff : ofNumber x = .null ↔ x.isFinite = false := by
  constructor
  · intro h
    rw [← Bool.not_eq_true]
    intro hf
    have hv := value?_ofNumber hf
    rw [h] at hv
    cases hv
  · intro hf
    have hinteger : Decimal.integer? x = none := by
      rw [Option.eq_none_iff_forall_ne_some]
      intro n hn
      rw [(Decimal.integer?_eq_some_iff.mp hn).1] at hf
      cases hf
    rw [ofNumber, hinteger, Option.filter_none, Json.ofFloat, dif_neg (by simp [hf])]

end Cell

theorem Aggregate.numberOrNull_eq_null_iff {x : Option Float} :
    numberOrNull x = .null ↔ x = none ∨ ∃ y, x = some y ∧ y.isFinite = false := by
  cases x with
  | none => simp [numberOrNull]
  | some y => simp [numberOrNull, Cell.ofNumber_eq_null_iff]

end TableQuery
