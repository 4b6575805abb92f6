import TableQuery.Proofs.Rows.FloatValues
import TableQuery.Proofs.Rows.NearestIntegers

namespace TableQuery.Rounding

open Float.Model FloatIntegers

section Shifts

open UnpackedFloat (ExtendedMantissa)

theorem shiftRight_succ (x : ExtendedMantissa) (k : Nat) :
    x >>> (k + 1) = (x >>> k).shiftRightOne := rfl

theorem shiftRight_add (x : ExtendedMantissa) (j k : Nat) : x >>> (j + k) = (x >>> j) >>> k := by
  induction k with
  | zero => rfl
  | succ k ih => rw [← Nat.add_assoc, shiftRight_succ, shiftRight_succ, ih]

theorem mod_two_pow_succ (m k : Nat) : m % 2 ^ (k + 1) = m % 2 ^ k + 2 ^ k * (m / 2 ^ k % 2) := by
  rw [Nat.pow_succ, Nat.mod_mul]

/-- What is dropped is known by its first digit and by whether there are others. -/
theorem shiftRight_eq (m k : Nat) :
    (⟨m, false, false⟩ : ExtendedMantissa) >>> (k + 1) =
      ⟨m / 2 ^ (k + 1), m / 2 ^ k % 2 != 0, m % 2 ^ k != 0⟩ := by
  induction k with
  | zero =>
      simp [HShiftRight.hShiftRight, Nat.repeat, Nat.mod_one, ExtendedMantissa.shiftRightOne]
  | succ k ih =>
      rw [shiftRight_succ, ih, ExtendedMantissa.shiftRightOne]
      congr 1
      · rw [Nat.div_div_eq_div_mul, ← Nat.pow_succ]
      · rw [mod_two_pow_succ]
        rcases Nat.mod_two_eq_zero_or_one (m / 2 ^ k) with h | h <;> rw [h] <;> simp

theorem roundedMantissa_shiftRight (m k : Nat) :
    ((⟨m, false, false⟩ : ExtendedMantissa) >>> k).roundedMantissa = halfEven m (2 ^ k) := by
  cases k with
  | zero => exact (halfEven_one m).symm
  | succ k =>
      have hm := mod_two_pow_succ m k
      have hlt := Nat.mod_lt m (Nat.two_pow_pos k)
      have hp : 2 ^ (k + 1) = 2 * 2 ^ k := Nat.pow_succ'
      rw [shiftRight_eq, halfEven]
      rcases Nat.mod_two_eq_zero_or_one (m / 2 ^ k) with hfirst | hfirst <;> rw [hfirst] at hm
      · have hc : compare (2 * (m % 2 ^ (k + 1))) (2 ^ (k + 1)) = .lt :=
          Nat.compare_eq_lt.mpr (by omega)
        rw [hc, hfirst]
        cases m % 2 ^ k != 0 <;> rfl
      · rcases Nat.eq_zero_or_pos (m % 2 ^ k) with hrest | hrest
        · have hc : compare (2 * (m % 2 ^ (k + 1))) (2 ^ (k + 1)) = .eq :=
            Nat.compare_eq_eq.mpr (by omega)
          rw [hc, hfirst, hrest]
          rfl
        · have hc : compare (2 * (m % 2 ^ (k + 1))) (2 ^ (k + 1)) = .gt :=
            Nat.compare_eq_gt.mpr (by omega)
          have hb : (m % 2 ^ k != 0) = true := bne_iff_ne.mpr (Nat.ne_of_gt hrest)
          rw [hc, hfirst, hb]
          rfl

end Shifts

section Scaling

variable {m : Nat} {e : Int} (s : UnpackedFloat.Sign)

theorem totalExponent_scaled (hm : m ≠ 0) (j : Nat) :
    totalExponent (m * 2 ^ j) (e - j) = totalExponent m e := by
  rw [totalExponent, totalExponent, log2_mul_two_pow hm]
  omega

theorem shiftToExponent_scaled {t : Int} (ht : e ≤ t) (j : Nat) :
    UnpackedFloat.shiftToExponent (m * 2 ^ j) (e - j) .exact t =
      UnpackedFloat.shiftToExponent m e .exact t := by
  have hk : (t - (e - j)).toNat = j + (t - e).toNat := by omega
  simp only [UnpackedFloat.shiftToExponent, UnpackedFloat.ExtendedMantissa.ofMantissaAndAccuracy,
    hk, shiftRight_add, shiftRight_zeros]
  congr 1
  omega

theorem roundWithAccuracy_scaled (hm : m ≠ 0)
    (he : e ≤ Format.binary64.targetExponent (totalExponent m e)) (j : Nat) :
    UnpackedFloat.roundWithAccuracy .binary64 s (m * 2 ^ j) (e - j) .exact =
      UnpackedFloat.roundWithAccuracy .binary64 s m e .exact := by
  have hshift : UnpackedFloat.shiftToTargetExponent .binary64 (m * 2 ^ j) (e - j) .exact =
      UnpackedFloat.shiftToTargetExponent .binary64 m e .exact := by
    rw [UnpackedFloat.shiftToTargetExponent, totalExponent_scaled hm, shiftToExponent_scaled he]
    rfl
  rw [UnpackedFloat.roundWithAccuracy, hshift]
  rfl

theorem round_eq {j : Nat} (hm : m ≠ 0)
    (hj : e - j ≤ Format.binary64.targetExponent (totalExponent m e)) :
    UnpackedFloat.round .binary64 s m e =
      UnpackedFloat.roundWithAccuracy .binary64 s (m * 2 ^ j) (e - j) .exact := by
  -- Of the `j` zeros behind the mantissa, `d` are needed, and the others change nothing.
  let d := (e - Format.binary64.targetExponent (totalExponent m e)).toNat
  obtain ⟨i, rfl⟩ : ∃ i, j = d + i := Nat.exists_eq_add_of_le (by omega)
  have hd : m * 2 ^ d ≠ 0 := Nat.mul_ne_zero hm (Nat.ne_of_gt (Nat.two_pow_pos d))
  have he : e - d ≤ Format.binary64.targetExponent (totalExponent (m * 2 ^ d) (e - d)) := by
    rw [totalExponent_scaled hm]
    omega
  have hscaled := roundWithAccuracy_scaled s hd he i
  rw [Nat.mul_assoc, ← Nat.pow_add, Int.sub_sub, ← Int.natCast_add] at hscaled
  rw [hscaled, UnpackedFloat.round, UnpackedFloat.decreaseExponent, Nat.shiftLeft_eq]

theorem round_scaled (hm : m ≠ 0) (j : Nat) :
    UnpackedFloat.round .binary64 s (m * 2 ^ j) (e - j) = UnpackedFloat.round .binary64 s m e := by
  let i := (e - Format.binary64.targetExponent (totalExponent m e)).toNat
  have hd : m * 2 ^ j ≠ 0 := Nat.mul_ne_zero hm (Nat.ne_of_gt (Nat.two_pow_pos j))
  rw [round_eq s hm (j := j + i) (by omega),
    round_eq s hd (j := i) (by rw [totalExponent_scaled hm]; omega),
    Nat.mul_assoc, ← Nat.pow_add, Int.sub_sub, ← Int.natCast_add]

end Scaling

inductive Whole : UnpackedFloat → Int → Prop
  | zero (s : UnpackedFloat.Sign) : Whole (.zero s) 0
  | finite (s : UnpackedFloat.Sign) {m : Nat} {e : Int} {n : Nat} (h : Normal m e)
      (hn : (m : ℚ) * 2 ^ e = n) : Whole (.finite s m e h.pos) (s.apply n)

section Naturals

variable {n : Nat} (s : UnpackedFloat.Sign)

theorem exists_normal {q k : Nat} (hq : 2 ^ 52 ≤ q ∧ q ≤ 2 ^ 53) (hk : k ≤ 970) :
    ∃ m e, Normal m e ∧
      UnpackedFloat.shiftToTargetExponent .binary64 q k .exact = (⟨m, false, false⟩, e) ∧
        (m : ℚ) * 2 ^ e = q * 2 ^ k := by
  rcases Nat.lt_or_eq_of_le hq.2 with hlt | rfl
  · have hlog : q.log2 = 52 := (Nat.log2_eq_iff (by omega)).mpr ⟨hq.1, hlt⟩
    have h : Normal q (k : Int) := ⟨hlog, by omega, by omega⟩
    refine ⟨q, k, h, ?_, by rw [zpow_natCast]⟩
    simpa using shiftToTargetExponent_zeros h 0
  · -- Rounding has carried into one digit more; the last one is zero and is dropped.
    have h : Normal (2 ^ 52) ((k : Int) + 1) := ⟨by decide, by omega, by omega⟩
    refine ⟨2 ^ 52, k + 1, h, ?_, ?_⟩
    · simpa using shiftToTargetExponent_zeros h 1
    · rw [zpow_add₀ two_ne_zero, zpow_natCast]
      push_cast
      ring

/-- The bound is far below what overflows, and no sum of cells comes near it. -/
theorem whole_round_large (hl : 52 ≤ n.log2) (hb : n.log2 ≤ 200) :
    Whole (UnpackedFloat.round .binary64 s n 0) (s.apply (nearestNat n)) := by
  obtain ⟨k, hk⟩ : ∃ k, n.log2 = 52 + k := Nat.exists_eq_add_of_le hl
  have hn : n ≠ 0 := by
    rintro rfl
    exact absurd hl (by decide)
  have hunit : lastPlace n = 2 ^ k := by rw [lastPlace, hk, Nat.add_sub_cancel_left]
  have ht : Format.binary64.targetExponent (totalExponent n 0) = k := by
    simp only [Format.targetExponent, totalExponent, hk, Format.mantissaBits, Format.minExponent]
    omega
  obtain ⟨m, e, h, hshift, hv⟩ :=
    exists_normal (halfEven_lastPlace_bounds hl) (k := k) (by omega)
  have hfirst : UnpackedFloat.shiftToTargetExponent .binary64 n 0 .exact =
      ((⟨n, false, false⟩ : UnpackedFloat.ExtendedMantissa) >>> k, (k : Int)) := by
    rw [UnpackedFloat.shiftToTargetExponent, ht, UnpackedFloat.shiftToExponent]
    simp [UnpackedFloat.ExtendedMantissa.ofMantissaAndAccuracy]
  have hround : UnpackedFloat.round .binary64 s n 0 = .finite s m e h.pos := by
    have hexact := round_eq s (m := n) (e := 0) (j := 0) hn (by rw [ht]; omega)
    rw [Nat.pow_zero, Nat.mul_one, Int.natCast_zero, Int.sub_zero] at hexact
    rw [hunit] at hshift
    simp only [hexact, UnpackedFloat.roundWithAccuracy, hfirst, roundedMantissa_shiftRight, hshift,
      Nat.ne_of_gt h.pos, dif_neg, not_false_eq_true]
  rw [hround]
  refine .finite s h ?_
  rw [hv, nearestNat, hunit]
  push_cast
  rfl

theorem whole_round (hn : 0 < n) (hb : n < 2 ^ 200) :
    Whole (UnpackedFloat.round .binary64 s n 0) (s.apply (nearestNat n)) := by
  by_cases hlt : n < 2 ^ 53
  · rw [round_ofNat hn hlt s, nearestNat_of_lt hlt]
    refine .finite s (normal_of_lt hn hlt) ?_
    have hl : n.log2 < 53 := (Nat.log2_lt (Nat.ne_of_gt hn)).mpr hlt
    have he : (n.log2 : Int) - 52 = -((52 - n.log2 : Nat) : Int) := by omega
    rw [he, zpow_neg, zpow_natCast]
    push_cast
    exact mul_inv_cancel_right₀ (by positivity) _
  · refine whole_round_large s ?_ ?_
    · exact (Nat.le_log2 (Nat.ne_of_gt hn)).mpr (by omega)
    · have := (Nat.log2_lt (Nat.ne_of_gt hn)).mpr hb
      omega

end Naturals

theorem apply_neg (s : UnpackedFloat.Sign) (n : Int) : (-s).apply n = -s.apply n := by
  cases s
  · exact (Int.neg_neg n).symm
  · rfl

theorem scaled_cases {m n : Nat} {e : Int} (h : (m : ℚ) * 2 ^ e = n) :
    ∃ k : Nat, (e = k ∧ n = m * 2 ^ k) ∨ (e = -k ∧ m = n * 2 ^ k) := by
  obtain ⟨k, rfl | rfl⟩ := e.eq_nat_or_neg
  · rw [zpow_natCast] at h
    exact ⟨k, .inl ⟨rfl, by exact_mod_cast h.symm⟩⟩
  · rw [zpow_neg, zpow_natCast, ← div_eq_mul_inv, div_eq_iff (by positivity)] at h
    exact ⟨k, .inr ⟨rfl, by exact_mod_cast h⟩⟩

namespace Whole

variable {u v : UnpackedFloat} {a b : Int}

theorem unpack_pack (h : Whole u a) :
    UnpackedFloat.unpack .binary64 (UnpackedFloat.pack .binary64 u) = u := by
  cases h with
  | zero s => cases s <;> rfl
  | finite s h _ => exact unpack_pack_normal h s

theorem isFinite (h : Whole u a) : u.isFinite = true := by
  cases h <;> rfl

theorem rational_eq (h : Whole u a) : FloatValues.rational u = a := by
  cases h with
  | zero s => simp [FloatValues.rational]
  | finite s h hn =>
      cases s with
      | negative => simp [FloatValues.rational_eq_neg, hn, UnpackedFloat.Sign.apply]
      | positive => simp [FloatValues.rational_eq, hn, UnpackedFloat.Sign.apply]

protected theorem neg (h : Whole u a) : Whole u.neg (-a) := by
  cases h with
  | zero s => exact .zero (-s)
  | finite s h hn =>
      rw [← apply_neg]
      exact .finite (-s) h hn

theorem nearest_eq (h : Whole u a) : nearest a = a := by
  cases h with
  | zero s => rfl
  | @finite s m e n h hn =>
      have hlt := h.bounds.2
      have habs : (s.apply n).natAbs = n := by cases s <;> simp [UnpackedFloat.Sign.apply]
      -- Zeros stand behind the mantissa, or the integer is no greater than it.
      obtain ⟨k, ⟨-, hk⟩ | ⟨-, hk⟩⟩ := scaled_cases hn
      · exact nearest_eq_self hlt (habs.trans hk)
      · have hle : n ≤ m := hk ▸ Nat.le_mul_of_pos_right n (Nat.two_pow_pos k)
        exact nearest_of_le (by omega)

end Whole

section Sums

theorem round_of_value {m n : Nat} {e : Int} (s : UnpackedFloat.Sign) (hm : m ≠ 0)
    (h : (m : ℚ) * 2 ^ e = n) :
    UnpackedFloat.round .binary64 s m e = UnpackedFloat.round .binary64 s n 0 := by
  obtain ⟨k, ⟨rfl, rfl⟩ | ⟨rfl, rfl⟩⟩ := scaled_cases h
  · simpa using (round_scaled s hm (e := k) k).symm
  · have hn : n ≠ 0 := by
      rintro rfl
      simp at hm
    simpa using round_scaled s hn (e := 0) k

theorem whole_normalize {m a e : Int} (h : (m : ℚ) * 2 ^ e = a) (hb : a.natAbs < 2 ^ 200) :
    Whole (UnpackedFloat.normalize .binary64 m e .positive) (nearest a) := by
  have hpow : (0 : ℚ) < 2 ^ e := by positivity
  have hv : (m.natAbs : ℚ) * 2 ^ e = a.natAbs := by
    rw [Nat.cast_natAbs, Nat.cast_natAbs, Int.cast_abs, Int.cast_abs, ← h, abs_mul,
      abs_of_pos hpow]
  -- The value decides what is rounded, and not its mantissa and exponent.
  have hround (s : UnpackedFloat.Sign) (hm : m ≠ 0) :
      Whole (UnpackedFloat.round .binary64 s m.natAbs e) (s.apply (nearestNat a.natAbs)) := by
    have hk : m.natAbs ≠ 0 := Int.natAbs_ne_zero.mpr hm
    have hpos : (0 : ℚ) < a.natAbs := hv ▸ mul_pos (by exact_mod_cast Nat.pos_of_ne_zero hk) hpow
    rw [round_of_value s hk hv]
    exact whole_round s (Nat.cast_pos.mp hpos) hb
  rcases lt_trichotomy m 0 with hm | rfl | hm
  · have ha : a < 0 := by
      rw [← Int.cast_lt_zero (R := ℚ), ← h]
      exact mul_neg_of_neg_of_pos (by exact_mod_cast hm) hpow
    have habs : (-m).toNat = m.natAbs := by omega
    rw [UnpackedFloat.normalize, Int.compare_eq_lt.mpr hm, nearest_of_neg ha]
    dsimp only
    rw [habs]
    exact hround .negative (ne_of_lt hm)
  · obtain rfl : a = 0 := by simpa using h.symm
    exact .zero .positive
  · have ha : 0 < a := by
      rw [← Int.cast_pos (R := ℚ), ← h]
      exact mul_pos (by exact_mod_cast hm) hpow
    have habs : m.toNat = m.natAbs := by omega
    rw [UnpackedFloat.normalize, Int.compare_eq_gt.mpr hm, nearest_of_nonneg ha.le]
    dsimp only
    rw [habs]
    exact hround .positive (ne_of_gt hm)

theorem apply_aligned {m n : Nat} {e t : Int} (s : UnpackedFloat.Sign) (h : (m : ℚ) * 2 ^ e = n)
    (ht : t ≤ e) :
    ((s.apply (m <<< (e - t).toNat : Nat) : Int) : ℚ) * 2 ^ t = (s.apply n : Int) := by
  have hm : ((m <<< (e - t).toNat : Nat) : ℚ) * 2 ^ t = n := by
    rw [Nat.shiftLeft_eq, ← h, Nat.cast_mul, mul_assoc, Nat.cast_pow, Nat.cast_two, ← zpow_natCast,
      ← zpow_add₀ two_ne_zero]
    congr 2
    omega
  generalize m <<< (e - t).toNat = k at hm ⊢
  cases s <;> simp [UnpackedFloat.Sign.apply, hm]

theorem Whole.add {u v : UnpackedFloat} {a b : Int} (hu : Whole u a) (hv : Whole v b)
    (hb : (a + b).natAbs < 2 ^ 200) :
    Whole (UnpackedFloat.add .binary64 u v) (nearest (a + b)) := by
  cases hu with
  | zero s =>
      rw [Int.zero_add, hv.nearest_eq]
      cases hv with
      | zero t =>
          rw [UnpackedFloat.add]
          split <;> exact .zero _
      | finite t h hn => exact .finite t h hn
  | finite s h hn =>
      cases hv with
      | zero t =>
          rw [Int.add_zero, (Whole.finite s h hn).nearest_eq]
          exact .finite s h hn
      | finite t h' hn' =>
          refine whole_normalize ?_ hb
          rw [Int.cast_add, add_mul, Int.cast_add]
          exact congrArg₂ (· + ·) (apply_aligned s hn (min_le_left _ _))
            (apply_aligned t hn' (min_le_right _ _))

end Sums

section Floats

variable {x y : Float} {a b : Int}

theorem unpack_ofModel_pack {u : UnpackedFloat} (h : Whole u a) :
    Whole (Float.ofModel (.pack u)).toModel.unpack a := by
  change Whole (UnpackedFloat.unpack .binary64 (UnpackedFloat.pack .binary64 u)) a
  rw [h.unpack_pack]
  exact h

theorem isFinite_of_whole (h : Whole x.toModel.unpack a) : x.isFinite = true := h.isFinite

theorem valueOf_of_whole (h : Whole x.toModel.unpack a) : Decimal.valueOf x = a := by
  rw [Decimal.valueOf_eq_rational (isFinite_of_whole h), h.rational_eq]

theorem whole_add (hx : Whole x.toModel.unpack a) (hy : Whole y.toModel.unpack b)
    (hb : (a + b).natAbs < 2 ^ 200) : Whole (x + y).toModel.unpack (nearest (a + b)) :=
  unpack_ofModel_pack (hx.add hy hb)

theorem ofScientific_eq_round {n : Nat} (hn : 0 < n) :
    UnpackedFloat.ofScientific .binary64 n 0 = UnpackedFloat.round .binary64 .positive n 0 := by
  have hne := Nat.ne_of_gt hn
  have ht : (0 : Int) - (53 : Nat) ≤ Format.binary64.targetExponent (totalExponent n 0) := by
    simp only [Format.targetExponent, totalExponent, Format.mantissaBits, Format.minExponent]
    omega
  have hlarge : ¬(0 : Int) > 2 ^ 11 := by decide
  have hsmall : ¬(0 : Int) < -((2 ^ 11 : Int) + n.log2) := by omega
  rw [round_eq .positive hne ht, UnpackedFloat.ofScientific, dif_neg hne, if_neg hlarge,
    if_neg hsmall, if_pos (Int.le_refl 0), UnpackedFloat.mul, Nat.shiftLeft_eq]
  have hm : n * 2 ^ Format.binary64.mantissaBits * 10 ^ (0 : Int).toNat = n * 2 ^ 53 := by
    rw [Int.toNat_zero, Nat.pow_zero, Nat.mul_one]
    rfl
  rw [hm]
  rfl

theorem whole_ofNat {n : Nat} (hb : n < 2 ^ 200) :
    Whole (Float.ofNat n).toModel.unpack (nearestNat n) := by
  rcases Nat.eq_zero_or_pos n with rfl | hn
  · exact .zero .positive
  · by_cases hlt : n < 2 ^ 53
    · rw [unpack_ofNat hn hlt, ← round_ofNat hn hlt]
      exact whole_round .positive hn hb
    · have hofNat : Float.ofNat n =
          .ofModel (.pack (UnpackedFloat.ofScientific .binary64 n 0)) := by
        change Float.ofScientific n false 0 = _
        rw [Float.ofScientific, dif_neg fun h => hlt h.1]
        rfl
      rw [hofNat, ofScientific_eq_round hn]
      exact unpack_ofModel_pack (whole_round .positive hn hb)

theorem whole_intToFloat (hb : a.natAbs < 2 ^ 200) :
    Whole (intToFloat a).toModel.unpack (nearest a) := by
  have h := whole_ofNat hb
  unfold intToFloat
  split
  · next hneg =>
      rw [nearest_of_neg hneg]
      exact unpack_ofModel_pack h.neg
  · next hneg =>
      rw [nearest_of_nonneg (Int.not_lt.mp hneg)]
      exact h

end Floats

end TableQuery.Rounding
