import Mathlib
import TableQuery.Proofs.Rows.FloatValues
import TableQuery.Proofs.Rows.NearestIntegers

namespace TableQuery.Rounding

open FloatValues (Canonical)

section Fractions

variable {m n c d : Nat}

theorem halfEven_scaled (hc : 0 < c) : halfEven (m * c) (d * c) = halfEven m d := by
  have hcompare : compare (2 * (m % d * c)) (d * c) = compare (2 * (m % d)) d := by
    rw [← Nat.mul_assoc]
    rcases Nat.lt_trichotomy (2 * (m % d)) d with h | h | h
    · rw [Nat.compare_eq_lt.mpr h, Nat.compare_eq_lt.mpr (Nat.mul_lt_mul_of_pos_right h hc)]
    · rw [Nat.compare_eq_eq.mpr h, h, Nat.compare_eq_eq.mpr rfl]
    · rw [Nat.compare_eq_gt.mpr h, Nat.compare_eq_gt.mpr (Nat.mul_lt_mul_of_pos_right h hc)]
  rw [halfEven, Nat.mul_mod_mul_right, Nat.mul_div_mul_right _ _ hc, hcompare]
  rfl

/-- The nearest natural number, the even one in a tie; zero for what is negative. -/
def roundEven (v : ℚ) : Nat := halfEven v.num.toNat v.den

theorem roundEven_div (hd : 0 < d) : roundEven (m / d) = halfEven m d := by
  have hv : (0 : ℚ) ≤ m / d := by positivity
  have hnum : ((m / d : ℚ).num.toNat : ℤ) = (m / d : ℚ).num :=
    Int.toNat_of_nonneg (Rat.num_nonneg.mpr hv)
  have hcross : (m / d : ℚ).num.toNat * d = m * (m / d : ℚ).den := by
    have hq : ((m / d : ℚ).num : ℚ) / (m / d : ℚ).den = m / d := Rat.num_div_den _
    rw [div_eq_div_iff (by positivity) (by positivity), ← hnum] at hq
    exact_mod_cast hq
  rw [roundEven, ← halfEven_scaled hd, hcross, Nat.mul_comm _ d, halfEven_scaled (Rat.den_pos _)]

theorem roundEven_natCast (n : Nat) : roundEven n = n := by
  simpa using (roundEven_div (m := n) Nat.one_pos).trans (halfEven_one n)

theorem roundEven_mono : Monotone roundEven := by
  intro v w h
  rw [roundEven, roundEven, ← halfEven_scaled w.den_pos,
    ← halfEven_scaled (m := w.num.toNat) v.den_pos, Nat.mul_comm w.den]
  apply halfEven_mono
  rcases le_total v.num 0 with hv | hv
  · simp [Int.toNat_of_nonpos hv]
  · have hw : 0 ≤ w.num := Rat.num_nonneg.mpr ((Rat.num_nonneg.mp hv).trans h)
    zify
    rw [Int.toNat_of_nonneg hv, Int.toNat_of_nonneg hw]
    exact (Rat.le_iff v w).mp h

end Fractions

section Magnitudes

variable {v w : ℚ}

def unitExponent (v : ℚ) : ℤ := max (Int.log 2 v - 52) (-1074)

def nearestMagnitude (v : ℚ) : ℚ := roundEven (v / 2 ^ unitExponent v) * 2 ^ unitExponent v

theorem unit_pos (v : ℚ) : (0 : ℚ) < 2 ^ unitExponent v := by positivity

theorem unitExponent_mono (hv : 0 < v) (h : v ≤ w) : unitExponent v ≤ unitExponent w :=
  max_le_max_right _ (Int.sub_le_sub_right (Int.log_mono_right hv h) 52)

theorem nearestMagnitude_nonneg (v : ℚ) : 0 ≤ nearestMagnitude v := by
  unfold nearestMagnitude
  positivity

theorem nearestMagnitude_eq_self {q : Nat} (h : v = q * 2 ^ unitExponent v) :
    nearestMagnitude v = v := by
  have hq : v / 2 ^ unitExponent v = q := (div_eq_iff (unit_pos v).ne').mpr h
  rw [nearestMagnitude, hq, roundEven_natCast, ← h]

theorem nearestMagnitude_zero : nearestMagnitude 0 = 0 :=
  nearestMagnitude_eq_self (q := 0) (by simp)

theorem two_pow_mul_unit (k : Nat) (v : ℚ) :
    ((2 ^ k : Nat) : ℚ) * 2 ^ unitExponent v = 2 ^ (unitExponent v + k) := by
  rw [zpow_add₀ two_ne_zero, zpow_natCast, mul_comm]
  push_cast
  rfl

theorem lt_unit (v : ℚ) : v < 2 ^ (unitExponent v + 53) :=
  calc v < 2 ^ (Int.log 2 v + 1) := by exact_mod_cast Int.lt_zpow_succ_log_self one_lt_two v
    _ ≤ 2 ^ (unitExponent v + 53) := by
        refine zpow_le_zpow_right₀ one_le_two ?_
        have := le_max_left (Int.log 2 v - 52) (-1074)
        unfold unitExponent
        omega

theorem unit_le (hv : 0 < v) (hu : -1074 < unitExponent v) : 2 ^ (unitExponent v + 52) ≤ v := by
  have he : unitExponent v + 52 = Int.log 2 v := by
    unfold unitExponent at hu ⊢
    omega
  rw [he]
  exact_mod_cast Int.zpow_log_le_self one_lt_two hv

theorem roundEven_unit_le (v : ℚ) : roundEven (v / 2 ^ unitExponent v) ≤ 2 ^ 53 := by
  rw [← roundEven_natCast (2 ^ 53)]
  apply roundEven_mono
  rw [div_le_iff₀ (unit_pos v), two_pow_mul_unit]
  exact (lt_unit v).le

theorem le_roundEven_unit (hv : 0 < v) (hu : -1074 < unitExponent v) :
    2 ^ 52 ≤ roundEven (v / 2 ^ unitExponent v) := by
  rw [← roundEven_natCast (2 ^ 52)]
  apply roundEven_mono
  rw [le_div_iff₀ (unit_pos v), two_pow_mul_unit]
  exact unit_le hv hu

theorem nearestMagnitude_mono (hv : 0 ≤ v) (h : v ≤ w) :
    nearestMagnitude v ≤ nearestMagnitude w := by
  rcases hv.eq_or_lt with rfl | hv
  · rw [nearestMagnitude_zero]
    exact nearestMagnitude_nonneg w
  rcases (unitExponent_mono hv h).eq_or_lt with hu | hu
  · unfold nearestMagnitude
    rw [hu]
    have hq : roundEven (v / 2 ^ unitExponent w) ≤ roundEven (w / 2 ^ unitExponent w) :=
      roundEven_mono (by gcongr)
    gcongr
  · -- A power of two lies between them, a multiple of both units.
    have hmin : -1074 < unitExponent w := (le_max_right _ _).trans_lt hu
    calc nearestMagnitude v ≤ (2 ^ 53 : Nat) * 2 ^ unitExponent v := by
          unfold nearestMagnitude
          gcongr
          exact roundEven_unit_le v
      _ = 2 ^ (unitExponent v + 53) := two_pow_mul_unit 53 v
      _ ≤ 2 ^ (unitExponent w + 52) := zpow_le_zpow_right₀ one_le_two (by omega)
      _ = (2 ^ 52 : Nat) * 2 ^ unitExponent w := (two_pow_mul_unit 52 w).symm
      _ ≤ nearestMagnitude w := by
          unfold nearestMagnitude
          gcongr
          exact le_roundEven_unit (hv.trans_le h) hmin

section Canonical

variable {m : Nat} {e : ℤ}

theorem log_mul_zpow {r : ℚ} (hm : m ≠ 0) (hle : (m : ℚ) ≤ r) (hlt : r < m + 1) (e : ℤ) :
    Int.log 2 (r * 2 ^ e) = m.log2 + e := by
  have hlow : (2 : ℚ) ^ m.log2 ≤ r := (show (2 : ℚ) ^ m.log2 ≤ m from by
    exact_mod_cast Nat.log2_self_le hm).trans hle
  have hhigh : r < (2 : ℚ) ^ (m.log2 + 1) := hlt.trans_le (by exact_mod_cast Nat.lt_log2_self)
  have hpos : 0 < r * 2 ^ e :=
    mul_pos ((by positivity : (0 : ℚ) < 2 ^ m.log2).trans_le hlow) (by positivity)
  apply le_antisymm
  · rw [← Int.lt_add_one_iff, ← Int.lt_zpow_iff_log_lt one_lt_two hpos, Nat.cast_two,
      add_right_comm, zpow_add₀ two_ne_zero]
    have hcast : (2 : ℚ) ^ ((m.log2 : ℤ) + 1) = 2 ^ (m.log2 + 1) := by norm_cast
    rw [hcast]
    gcongr
  · rw [← Int.zpow_le_iff_le_log one_lt_two hpos, Nat.cast_two, zpow_add₀ two_ne_zero, zpow_natCast]
    gcongr

theorem unitExponent_canonical (h : Canonical m e) (hm : m ≠ 0) :
    unitExponent ((m : ℚ) * 2 ^ e) = e := by
  have hlt := (Nat.log2_lt hm).mpr h.lt
  have hle := h.least
  rw [unitExponent, log_mul_zpow hm le_rfl (lt_add_one _)]
  rcases h.leading with hl | rfl
  · have := (Nat.le_log2 hm).mpr hl
    omega
  · omega

theorem nearestMagnitude_canonical (h : Canonical m e) :
    nearestMagnitude ((m : ℚ) * 2 ^ e) = m * 2 ^ e := by
  rcases eq_or_ne m 0 with rfl | hm
  · simp [nearestMagnitude_zero]
  · exact nearestMagnitude_eq_self (q := m) (by rw [unitExponent_canonical h hm])

end Canonical

theorem nearestMagnitude_tiny (hv : 0 ≤ v) (h : v ≤ 2 ^ (-1075 : ℤ)) : nearestMagnitude v = 0 := by
  have hhalf : nearestMagnitude (2 ^ (-1075 : ℤ)) = 0 := by
    have hlog : Int.log 2 ((2 : ℚ) ^ (-1075 : ℤ)) = -1075 := Int.log_zpow one_lt_two (-1075)
    have hu : unitExponent (2 ^ (-1075 : ℤ)) = -1074 := by
      rw [unitExponent, hlog]
      rfl
    have hq : (2 : ℚ) ^ (-1075 : ℤ) / 2 ^ (-1074 : ℤ) = (1 : ℕ) / (2 : ℕ) := by
      rw [← zpow_sub₀ two_ne_zero]
      norm_num
    rw [nearestMagnitude, hu, hq, roundEven_div two_pos]
    simp [halfEven]
  exact le_antisymm ((nearestMagnitude_mono hv h).trans_eq hhalf) (nearestMagnitude_nonneg v)

end Magnitudes

section Values

variable {v w : ℚ}

def overflow : ℚ := 2 ^ (1024 : ℤ)

theorem overflow_pos : 0 < overflow := by
  unfold overflow
  positivity

theorem overflow_eq : overflow = (2 ^ 52 : Nat) * 2 ^ (972 : ℤ) := by
  have hcast : ((2 ^ 52 : Nat) : ℚ) = 2 ^ (52 : ℤ) := by norm_cast
  rw [hcast]
  exact zpow_add₀ two_ne_zero 52 972

/-- The magnitude that binary64 has for a number; an infinite one counts as the least that it does
not have. -/
def boundedMagnitude (v : ℚ) : ℚ := min overflow (nearestMagnitude v)

/-- The number that binary64 has for a number. -/
def boundedValue (v : ℚ) : ℚ := if v < 0 then -boundedMagnitude (-v) else boundedMagnitude v

theorem boundedMagnitude_nonneg (v : ℚ) : 0 ≤ boundedMagnitude v :=
  le_min overflow_pos.le (nearestMagnitude_nonneg v)

theorem boundedMagnitude_mono (hv : 0 ≤ v) (h : v ≤ w) : boundedMagnitude v ≤ boundedMagnitude w :=
  min_le_min_left _ (nearestMagnitude_mono hv h)

theorem boundedMagnitude_zero : boundedMagnitude 0 = 0 := by
  rw [boundedMagnitude, nearestMagnitude_zero, min_eq_right overflow_pos.le]

theorem boundedMagnitude_tiny (hv : 0 ≤ v) (h : v ≤ 2 ^ (-1075 : ℤ)) : boundedMagnitude v = 0 := by
  rw [boundedMagnitude, nearestMagnitude_tiny hv h, min_eq_right overflow_pos.le]

theorem boundedMagnitude_huge (h : overflow ≤ v) : boundedMagnitude v = overflow := by
  have hcanonical : Canonical (2 ^ 52) 972 := ⟨by decide, by decide, .inl le_rfl⟩
  have hself : nearestMagnitude overflow = overflow := by
    rw [overflow_eq, nearestMagnitude_canonical hcanonical]
  exact min_eq_left (hself.symm.trans_le (nearestMagnitude_mono overflow_pos.le h))

theorem boundedValue_of_nonneg (hv : 0 ≤ v) : boundedValue v = boundedMagnitude v :=
  if_neg (not_lt.mpr hv)

theorem boundedValue_neg (v : ℚ) : boundedValue (-v) = -boundedValue v := by
  unfold boundedValue
  rcases lt_trichotomy v 0 with hv | rfl | hv
  · rw [if_pos hv, if_neg (by simpa using hv.le), neg_neg]
  · simp [boundedMagnitude_zero]
  · rw [if_neg hv.not_gt, if_pos (neg_lt_zero.mpr hv), neg_neg]

theorem boundedValue_mono : Monotone boundedValue := by
  intro v w h
  unfold boundedValue
  by_cases hw : w < 0
  · rw [if_pos (h.trans_lt hw), if_pos hw]
    exact neg_le_neg (boundedMagnitude_mono (by linarith) (neg_le_neg h))
  · rw [if_neg hw]
    have hnonneg := boundedMagnitude_nonneg
    split
    · exact (neg_nonpos.mpr (hnonneg _)).trans (hnonneg w)
    · exact boundedMagnitude_mono (by linarith) h

end Values

end TableQuery.Rounding
