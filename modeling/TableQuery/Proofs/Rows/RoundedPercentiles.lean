import TableQuery.Proofs.Rows.Fractions

namespace TableQuery

open Float.Model FloatValues Rounding
open Decimal (valueOf extendedOf)
open Arithmetic (percentile)

section Cut

variable {x : Float}

theorem mantissa_shiftRight (m k : Nat) :
    ((⟨m, false, false⟩ : UnpackedFloat.ExtendedMantissa) >>> k).mantissa = m / 2 ^ k := by
  cases k with
  | zero => exact (Nat.div_one m).symm
  | succ k => rw [shiftRight_eq]

theorem roundToInt_eq_floor (m : Nat) (e : ℤ) :
    UnpackedFloat.roundToInt .positive m e = (⌊(m : ℚ) * 2 ^ e⌋₊ : Nat) := by
  have hcut : UnpackedFloat.roundToInt .positive m e =
      ((⟨m <<< e.toNat, false, false⟩ : UnpackedFloat.ExtendedMantissa) >>>
        (e.toNat - e).toNat).mantissa := by
    have hz : (e - 0).toNat = e.toNat := by rw [Int.sub_zero]
    have hs : (0 - (e - (e.toNat : ℤ))).toNat = (e.toNat - e).toNat := by omega
    simp only [UnpackedFloat.roundToInt, UnpackedFloat.decreaseExponent,
      UnpackedFloat.shiftToExponent, hz, hs]
    rfl
  rw [hcut, mantissa_shiftRight, Nat.shiftLeft_eq, Nat.cast_inj]
  obtain ⟨k, rfl | rfl⟩ := e.eq_nat_or_neg
  · have hk : ((k : ℤ).toNat - (k : ℤ)).toNat = 0 := by omega
    have hv : (m : ℚ) * 2 ^ (k : ℤ) = (m * 2 ^ k : Nat) := by push_cast; rw [zpow_natCast]
    rw [hk, Int.toNat_natCast, hv, Nat.floor_natCast, Nat.pow_zero, Nat.div_one]
  · have hk : (-(k : ℤ)).toNat = 0 := by omega
    have hs : (((0 : Nat) : ℤ) - -(k : ℤ)).toNat = k := by omega
    have hv : (m : ℚ) * 2 ^ (-(k : ℤ)) = m / (2 ^ k : Nat) := by
      rw [zpow_neg, zpow_natCast, div_eq_mul_inv]
      push_cast
      rfl
    rw [hk, hs, hv, Nat.floor_div_eq_div, Nat.pow_zero, Nat.mul_one]

variable (hx : x.isFinite = true) (h0 : 0 ≤ valueOf x)

include hx h0

theorem toNat_toUInt64 (h : valueOf x < UInt64.size) : x.toUInt64.toNat = ⌊valueOf x⌋₊ := by
  have hword : x.toUInt64 = x.toModel.unpack.toUInt64 := rfl
  rw [Decimal.valueOf_eq_rational hx] at h0 h ⊢
  rw [hword]
  cases hu : x.toModel.unpack with
  | notANumber | infinity =>
      change x.toModel.unpack.isFinite = true at hx
      rw [hu] at hx
      cases hx
  | zero =>
      rw [rational, Nat.floor_zero]
      rfl
  | finite s m e hm =>
      rw [hu] at h0 h
      cases s with
      | negative => exact absurd h0 (rational_negative m e hm).not_ge
      | positive =>
          rw [rational_eq] at h ⊢
          have hlt : ⌊(m : ℚ) * 2 ^ e⌋₊ < UInt64.size := (Nat.floor_lt (by positivity)).mpr h
          rw [UnpackedFloat.toUInt64, UnpackedFloat.toInt, roundToInt_eq_floor, Int.toNat_natCast,
            UInt64.ofNatClamp, dif_pos hlt]
          rfl

end Cut

section Words

variable {x : Float}

theorem toFloat_exact {n : UInt64} (h : n.toNat ≤ 2 ^ 53) :
    n.toFloat.isFinite = true ∧ valueOf n.toFloat = n.toNat := by
  rcases Nat.eq_zero_or_pos n.toNat with hz | hpos
  · obtain rfl : n = 0 := UInt64.toNat_inj.mp hz
    simpa using valueOf_of_integer? (x := (0 : UInt64).toFloat) (n := 0) (by decide +kernel)
  · rcases Nat.lt_or_eq_of_le h with hlt | he
    · have hn : n.toNat.toUInt64 = n := UInt64.ofNat_toNat
      rw [← hn]
      simpa [hn] using Decimal.natural_exact hpos hlt
    · obtain rfl : n = 9007199254740992 := UInt64.toNat_inj.mp (he.trans rfl)
      have hv := valueOf_of_integer? (x := (9007199254740992 : UInt64).toFloat)
        (n := 9007199254740992) (by decide +kernel)
      refine ⟨hv.1, ?_⟩
      rw [hv.2, he]
      norm_num

variable (hx : x.isFinite = true) (h0 : 0 ≤ valueOf x) (h : valueOf x ≤ (2 ^ 53 : Nat))

include hx h0 h

theorem floor_eq_floor : Arithmetic.floor x = ⌊valueOf x⌋₊ :=
  toNat_toUInt64 hx h0 (h.trans_lt (by exact_mod_cast (by decide : 2 ^ 53 < UInt64.size)))

theorem ceil_eq_ceil : Arithmetic.ceil x = ⌈valueOf x⌉₊ := by
  have hfloor : x.toUInt64.toNat = ⌊valueOf x⌋₊ := floor_eq_floor hx h0 h
  have hle : x.toUInt64.toNat ≤ 2 ^ 53 := hfloor ▸ Nat.floor_le_of_le h
  obtain ⟨hf, hv⟩ := toFloat_exact hle
  have hlt : x.toUInt64.toFloat < x ↔ (⌊valueOf x⌋₊ : ℚ) < valueOf x := by
    rw [lt_iff_valueOf hf hx, hv, hfloor]
  have hword : x.toUInt64.toNat + 1 < UInt64.size := Nat.lt_of_le_of_lt (Nat.succ_le_succ hle) (by decide)
  have hceil : Arithmetic.ceil x =
      if (⌊valueOf x⌋₊ : ℚ) < valueOf x then ⌊valueOf x⌋₊ + 1 else ⌊valueOf x⌋₊ := by
    change (if x.toUInt64.toFloat < x ∧ x.toUInt64.toNat + 1 < UInt64.size
      then x.toUInt64.toNat + 1 else x.toUInt64.toNat) = _
    rw [hfloor] at hword
    simp only [hlt, hfloor, hword, and_true]
  rw [hceil]
  split
  · next hover =>
      refine le_antisymm (Nat.lt_ceil.mpr hover) (Nat.ceil_le_floor_add_one _)
  · next hover =>
      have hwhole : (⌊valueOf x⌋₊ : ℚ) = valueOf x :=
        le_antisymm (Nat.floor_le h0) (not_lt.mp hover)
      rw [← hwhole, Nat.floor_natCast, Nat.ceil_natCast]

end Words

section Products

variable {x y : Float}

theorem isFinite_of_extendedOf_lt (hn : x.isNaN = false) (h : |extendedOf x| < overflow) :
    x.isFinite = true := by
  rcases infinity_or_isFinite hn with ⟨s, hs⟩ | hf
  · have habs : |extendedOf x| = overflow := by
      rw [extendedOf, hs]
      cases s with
      | negative => exact (abs_neg _).trans (abs_of_pos overflow_pos)
      | positive => exact abs_of_pos overflow_pos
    exact absurd h habs.not_lt
  · exact hf

variable (hx : x.isFinite = true) (hy : y.isFinite = true)

include hx

theorem exists_unpack_zero (h : valueOf x = 0) : ∃ s, x.toModel.unpack = .zero s := by
  rw [Decimal.valueOf_eq_rational hx] at h
  change x.toModel.unpack.isFinite = true at hx
  cases hu : x.toModel.unpack with
  | notANumber | infinity =>
      rw [hu] at hx
      cases hx
  | zero s => exact ⟨s, rfl⟩
  | finite s m e hm =>
      rw [hu] at h
      cases s with
      | negative => exact absurd h (rational_negative m e hm).ne
      | positive => exact absurd h (rational_positive m e hm).ne'

include hy

theorem valueOf_mul_zero (h : valueOf x = 0 ∨ valueOf y = 0) :
    (x * y).isFinite = true ∧ valueOf (x * y) = 0 := by
  have hmul : x * y = .ofModel (.pack (UnpackedFloat.mul .binary64 x.toModel.unpack
      y.toModel.unpack)) := rfl
  have hzero : ∃ s, UnpackedFloat.mul .binary64 x.toModel.unpack y.toModel.unpack = .zero s := by
    change x.toModel.unpack.isFinite = true at hx
    change y.toModel.unpack.isFinite = true at hy
    rcases h with h | h
    · obtain ⟨s, hs⟩ := exists_unpack_zero hx h
      rw [hs]
      cases hw : y.toModel.unpack with
      | notANumber | infinity =>
          rw [hw] at hy
          cases hy
      | zero | finite => exact ⟨_, rfl⟩
    · obtain ⟨s, hs⟩ := exists_unpack_zero hy h
      rw [hs]
      cases hu : x.toModel.unpack with
      | notANumber | infinity =>
          rw [hu] at hx
          cases hx
      | zero | finite => exact ⟨_, rfl⟩
  obtain ⟨s, hs⟩ := hzero
  have hwhole := unpack_ofModel_pack (Whole.zero s)
  rw [← hs, ← hmul] at hwhole
  exact ⟨isFinite_of_whole hwhole, by simpa using valueOf_of_whole hwhole⟩

end Products

section Index

variable {p : Float} {v : ℚ} (hp : RoundsTo v p) (hv : Arithmetic.isFraction v = true)

include hp hv

theorem RoundsTo.isFinite : p.isFinite = true ∧ 0 ≤ valueOf p ∧ valueOf p ≤ 1 := by
  obtain ⟨h0, h1⟩ := isFraction_iff.mp hv
  have hlow : 0 ≤ extendedOf p := by
    rw [hp.value, ← boundedValue_zero]
    exact boundedValue_mono h0
  have hhigh : extendedOf p ≤ 1 := by
    rw [hp.value, ← boundedValue_one]
    exact boundedValue_mono h1
  have hf : p.isFinite = true := isFinite_of_extendedOf_lt hp.isNaN (by
    rw [abs_of_nonneg hlow]
    exact hhigh.trans_lt (one_lt_zpow₀ (by norm_num) (by norm_num)))
  rw [Decimal.extendedOf_of_isFinite hf] at hlow hhigh
  exact ⟨hf, hlow, hhigh⟩

theorem RoundsTo.index_le {k : Nat} (hk : k ≤ 2 ^ 53) :
    (p * Float.ofNat k).isFinite = true ∧ 0 ≤ valueOf (p * Float.ofNat k) ∧
      valueOf (p * Float.ofNat k) ≤ k := by
  obtain ⟨hf, h0, h1⟩ := hp.isFinite hv
  have hwhole := whole_intToFloat (a := k) (by omega)
  rw [nearest_of_le (by simpa using hk)] at hwhole
  change Whole (Float.ofNat k).toModel.unpack k at hwhole
  have hkf := isFinite_of_whole hwhole
  have hkv : valueOf (Float.ofNat k) = k := by simpa using valueOf_of_whole hwhole
  by_cases hz : valueOf p = 0 ∨ valueOf (Float.ofNat k) = 0
  · obtain ⟨hf', hv'⟩ := valueOf_mul_zero hf hkf hz
    exact ⟨hf', hv'.ge, hv'.trans_le (Nat.cast_nonneg k)⟩
  · obtain ⟨hpz, hkz⟩ := not_or.mp hz
    have hpos : 0 < valueOf p := h0.lt_of_ne' hpz
    have hkpos : 0 < valueOf (Float.ofNat k) := (hkv ▸ Nat.cast_nonneg k).lt_of_ne' hkz
    have hvalue := Decimal.extendedOf_mul hf hkf hpos hkpos
    have hself : boundedMagnitude (valueOf (Float.ofNat k)) = valueOf (Float.ofNat k) := by
      rw [← boundedValue_of_nonneg hkpos.le, Decimal.boundedValue_valueOf hkf]
    have hle : extendedOf (p * Float.ofNat k) ≤ k := by
      rw [hvalue, ← hkv]
      refine (boundedMagnitude_mono (by positivity) ?_).trans_eq hself
      exact mul_le_of_le_one_left hkpos.le h1
    have hnonneg : 0 ≤ extendedOf (p * Float.ofNat k) := hvalue ▸ boundedMagnitude_nonneg _
    have hbound : (k : ℚ) < overflow := by
      have hcast : (k : ℚ) ≤ 2 ^ (53 : ℤ) := by exact_mod_cast hk
      exact hcast.trans_lt (zpow_lt_zpow_right₀ one_lt_two (by norm_num))
    have hnan : (p * Float.ofNat k).isNaN = false := by
      obtain ⟨m, e, hm, hu, -⟩ := Decimal.exists_unpack hkf hkpos
      change (Float.ofModel (.pack (UnpackedFloat.mul .binary64 p.toModel.unpack
        (Float.ofNat k).toModel.unpack))).isNaN = false
      rw [hu]
      exact FloatOrder.isNaN_ofModel_pack (FloatOrder.isNaN_mul_finite hp.isNaN .positive m e hm)
    have hf' : (p * Float.ofNat k).isFinite = true := by
      refine isFinite_of_extendedOf_lt hnan ?_
      rw [abs_of_nonneg hnonneg]
      exact hle.trans_lt hbound
    rw [Decimal.extendedOf_of_isFinite hf'] at hle hnonneg
    exact ⟨hf', hnonneg, hle⟩

end Index

section Percentile

variable {p : Float} {v : ℚ} {xs : List Float} (hp : RoundsTo v p) (hv : Arithmetic.isFraction v = true)

include hp hv

theorem RoundsTo.percentile_eq_none_iff (hl : xs.length ≤ 2 ^ 53) :
    percentile xs p = none ↔ xs = [] := by
  cases hn : xs.isEmpty with
  | true => simp [percentile, List.isEmpty_iff.mp hn]
  | false =>
      have hne : xs ≠ [] := by simpa using hn
      have hpos := List.length_pos_of_ne_nil hne
      obtain ⟨hf, h0, hle⟩ := hp.index_le hv (k := xs.length - 1) (by omega)
      have hbound : valueOf (p * Float.ofNat (xs.length - 1)) ≤ (2 ^ 53 : Nat) :=
        hle.trans (by exact_mod_cast (by omega))
      have hceil : Arithmetic.ceil (p * Float.ofNat (xs.length - 1)) < xs.length := by
        rw [ceil_eq_ceil hf h0 hbound]
        exact (Nat.ceil_le.mpr hle).trans_lt (by omega)
      have hfloor : Arithmetic.floor (p * Float.ofNat (xs.length - 1)) < xs.length := by
        rw [floor_eq_floor hf h0 hbound]
        exact (Nat.floor_le_of_le hle).trans_lt (by omega)
      have hempty : (xs.isEmpty || !Arithmetic.isFraction p) = false := by
        rw [hn, hp.isFraction hv]
        rfl
      have hindex : p * Arithmetic.ofNat (xs.length - 1) = p * Float.ofNat (xs.length - 1) := rfl
      simp only [percentile, hempty, Bool.false_eq_true, if_false, hindex, hne, iff_false,
        List.getElem?_eq_getElem hceil, List.getElem?_eq_getElem hfloor]
      split <;> simp

end Percentile

end TableQuery
