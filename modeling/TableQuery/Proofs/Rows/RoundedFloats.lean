import Mathlib
import TableQuery.Proofs.Rows.FloatRounding
import TableQuery.Proofs.Rows.NearestValues

namespace TableQuery.Rounding

open Float.Model FloatIntegers FloatValues

section Cuts

open UnpackedFloat (ExtendedMantissa Accuracy accuracyOfFraction)

variable {n d : Nat}

/-- A fraction without its digits behind the point, and what rounding has to know of these. -/
def cut (n d : Nat) : ExtendedMantissa :=
  .ofMantissaAndAccuracy (n / d) (accuracyOfFraction (n % d) d)

theorem accuracy_ofMantissaAndAccuracy (m : Nat) (a : Accuracy) :
    (ExtendedMantissa.ofMantissaAndAccuracy m a).accuracy = a := by
  rcases a with _ | _ | _ | _ <;> rfl

theorem cut_eq (hd : 0 < d) :
    cut n d = ⟨n / d, decide (d ≤ 2 * (n % d)), decide (n % d ≠ 0 ∧ 2 * (n % d) ≠ d)⟩ := by
  rw [cut, accuracyOfFraction]
  by_cases hz : n % d = 0
  · simp [hz, ExtendedMantissa.ofMantissaAndAccuracy, Nat.not_le.mpr hd]
  · rw [if_neg hz]
    rcases Nat.lt_trichotomy (2 * (n % d)) d with h | h | h
    · rw [Nat.compare_eq_lt.mpr h]
      simp [ExtendedMantissa.ofMantissaAndAccuracy, hz, h, h.ne]
    · rw [Nat.compare_eq_eq.mpr h]
      simp [ExtendedMantissa.ofMantissaAndAccuracy, h]
    · rw [Nat.compare_eq_gt.mpr h]
      simp [ExtendedMantissa.ofMantissaAndAccuracy, hz, h.le, h.ne']

theorem cut_shiftRightOne (hd : 0 < d) : (cut n d).shiftRightOne = cut n (d * 2) := by
  have hrest := Nat.mod_lt n hd
  have hmod : n % (d * 2) = n % d + d * (n / d % 2) := Nat.mod_mul
  rw [cut_eq hd, cut_eq (Nat.mul_pos hd two_pos), ExtendedMantissa.shiftRightOne, hmod,
    Nat.div_div_eq_div_mul]
  rcases Nat.mod_two_eq_zero_or_one (n / d) with h | h <;> rw [h] <;> congr 1 <;>
    rw [Bool.eq_iff_iff] <;> simp <;> omega

theorem cut_shiftRight (hd : 0 < d) (k : Nat) : cut n d >>> k = cut n (d * 2 ^ k) := by
  induction k with
  | zero =>
      rw [Nat.pow_zero, Nat.mul_one]
      rfl
  | succ k ih =>
      rw [shiftRight_succ, ih, cut_shiftRightOne (by positivity), Nat.mul_assoc, ← Nat.pow_succ]

theorem roundedMantissa_cut (hd : 0 < d) : (cut n d).roundedMantissa = halfEven n d := by
  have hm : (cut n d).mantissa = n / d := by rw [cut_eq hd]
  rw [ExtendedMantissa.roundedMantissa, hm, cut, accuracy_ofMantissaAndAccuracy,
    accuracyOfFraction, halfEven]
  by_cases hz : n % d = 0
  · rw [if_pos hz, hz, Nat.mul_zero, Nat.compare_eq_lt.mpr hd]
    rfl
  · rw [if_neg hz]
    cases compare (2 * (n % d)) d <;> rfl

end Cuts

/-- What binary64 has of a magnitude, apart from how great its exponent is. -/
inductive Represents (s : UnpackedFloat.Sign) : ℚ → UnpackedFloat → Prop
  | zero : Represents s 0 (.zero s)
  | finite {m : Nat} {e : ℤ} (h : Canonical m e) (hm : 0 < m) :
      Represents s (m * 2 ^ e) (.finite s m e hm)

section Rounding

variable {n d : Nat} {e : ℤ}

theorem targetExponent_eq (m : Nat) (e : ℤ) :
    Format.binary64.targetExponent (totalExponent m e) = max (m.log2 + e - 52) (-1074) := by
  simp only [Format.targetExponent, totalExponent, Format.mantissaBits, Format.minExponent]
  omega

theorem targetExponent_cut (hn : 0 < n) (hd : 0 < d) (he : e ≤ unitExponent (n / d * 2 ^ e)) :
    Format.binary64.targetExponent (totalExponent (n / d) e) = unitExponent (n / d * 2 ^ e) := by
  have hle : ((n / d : Nat) : ℚ) ≤ n / d := Nat.cast_div_le
  have hlt : (n / d : ℚ) < (n / d : Nat) + 1 := by
    rw [← Nat.floor_div_eq_div (K := ℚ) n d]
    exact Nat.lt_floor_add_one _
  rw [targetExponent_eq]
  rcases Nat.eq_zero_or_pos (n / d) with hz | hz
  · -- Only below the least unit is no digit in front of the point needed.
    have hlog : Int.log 2 ((n : ℚ) / d * 2 ^ e) < e := by
      rw [← Int.lt_zpow_iff_log_lt one_lt_two (by positivity), Nat.cast_two]
      rw [hz, Nat.cast_zero, zero_add] at hlt
      exact mul_lt_of_lt_one_left (by positivity) hlt
    unfold unitExponent at he ⊢
    rw [hz, Nat.log2_zero]
    omega
  · rw [unitExponent, log_mul_zpow hz.ne' hle hlt]

theorem shift_cut (hn : 0 < n) (hd : 0 < d) (he : e ≤ unitExponent (n / d * 2 ^ e)) :
    ∃ k, UnpackedFloat.shiftToTargetExponent .binary64 (n / d) e
        (UnpackedFloat.accuracyOfFraction (n % d) d) =
          (cut n (d * 2 ^ k), unitExponent (n / d * 2 ^ e)) ∧
      (n / d * 2 ^ e : ℚ) / 2 ^ unitExponent (n / d * 2 ^ e) = n / (d * 2 ^ k : Nat) := by
  obtain ⟨k, hk⟩ : ∃ k : Nat, unitExponent (n / d * 2 ^ e) = e + k :=
    Int.le.dest he |>.imp fun _ h => h.symm
  refine ⟨k, ?_, ?_⟩
  · rw [UnpackedFloat.shiftToTargetExponent, targetExponent_cut hn hd he, hk,
      UnpackedFloat.shiftToExponent, ← cut, add_sub_cancel_left, Int.toNat_natCast,
      cut_shiftRight hd]
  · rw [hk, zpow_add₀ two_ne_zero, zpow_natCast]
    push_cast
    field_simp

theorem shift_carry {q : Nat} {t : ℤ} (hq : q ≤ 2 ^ 53) (ht : -1074 ≤ t)
    (hl : 2 ^ 52 ≤ q ∨ t = -1074) :
    ∃ m e, Canonical m e ∧
      UnpackedFloat.shiftToTargetExponent .binary64 q t .exact = (⟨m, false, false⟩, e) ∧
        (m : ℚ) * 2 ^ e = q * 2 ^ t := by
  rcases Nat.lt_or_eq_of_le hq with hlt | rfl
  · have hlog : q.log2 ≤ 52 := by
      rcases Nat.eq_zero_or_pos q with rfl | hpos
      · decide
      · exact Nat.lt_succ_iff.mp ((Nat.log2_lt hpos.ne').mpr hlt)
    have hk : (max ((q.log2 : ℤ) + t - 52) (-1074) - t).toNat = 0 := by omega
    refine ⟨q, t, ⟨hlt, ht, hl⟩, ?_, rfl⟩
    rw [UnpackedFloat.shiftToTargetExponent, targetExponent_eq, UnpackedFloat.shiftToExponent, hk]
    simp [UnpackedFloat.ExtendedMantissa.ofMantissaAndAccuracy, HShiftRight.hShiftRight, Nat.repeat]
  · have hk : max (((2 ^ 53 : Nat).log2 : ℤ) + t - 52) (-1074) = t + 1 := by
      rw [Nat.log2_two_pow]
      omega
    have hz := shiftToExponent_zeros (2 ^ 52) 1 (t + 1)
    rw [Nat.cast_one, add_sub_cancel_right, ← Nat.pow_add] at hz
    refine ⟨2 ^ 52, t + 1, ⟨by decide, by omega, .inl le_rfl⟩, ?_, ?_⟩
    · rw [UnpackedFloat.shiftToTargetExponent, targetExponent_eq, hk]
      exact hz
    · rw [zpow_add₀ two_ne_zero]
      push_cast
      ring

theorem represents_round (s : UnpackedFloat.Sign) (hn : 0 < n) (hd : 0 < d)
    (he : e ≤ unitExponent (n / d * 2 ^ e)) :
    Represents s (nearestMagnitude (n / d * 2 ^ e))
      (UnpackedFloat.roundWithAccuracy .binary64 s (n / d) e
        (UnpackedFloat.accuracyOfFraction (n % d) d)) := by
  obtain ⟨k, hshift, hv⟩ := shift_cut hn hd he
  have hround : (cut n (d * 2 ^ k)).roundedMantissa =
      roundEven (n / d * 2 ^ e / 2 ^ unitExponent (n / d * 2 ^ e)) := by
    rw [hv, roundEven_div (by positivity), roundedMantissa_cut (by positivity)]
  have hpos : (0 : ℚ) < n / d * 2 ^ e := by positivity
  have hleast : -1074 ≤ unitExponent (n / d * 2 ^ e) := le_max_right _ _
  have hlead : 2 ^ 52 ≤ roundEven (n / d * 2 ^ e / 2 ^ unitExponent (n / d * 2 ^ e)) ∨
      unitExponent (n / d * 2 ^ e) = -1074 := by
    rcases hleast.eq_or_lt with hu | hu
    · exact .inr hu.symm
    · exact .inl (le_roundEven_unit hpos hu)
  obtain ⟨m, f, hc, hcarry, hm⟩ := shift_carry (roundEven_unit_le _) hleast hlead
  rw [nearestMagnitude, ← hm]
  simp only [UnpackedFloat.roundWithAccuracy, hshift, hround, hcarry]
  split
  · next hz =>
      rw [hz, Nat.cast_zero, zero_mul]
      exact .zero
  · next hz => exact .finite hc (Nat.pos_of_ne_zero hz)

end Rounding

section Operations

variable {m n : Nat} {e f : ℤ} (s t : UnpackedFloat.Sign) (hm : 0 < m) (hn : 0 < n)

theorem le_unitExponent {v : ℚ} (hlead : 2 ^ 52 ≤ m) (hv : (m : ℚ) * 2 ^ e ≤ v) :
    e ≤ unitExponent v := by
  have hpow : (2 : ℚ) ^ (e + 52) ≤ v :=
    calc (2 : ℚ) ^ (e + 52) = 2 ^ 52 * 2 ^ e := by
          rw [add_comm, zpow_add₀ two_ne_zero]
          norm_cast
      _ ≤ m * 2 ^ e := by
          have hcast : (2 ^ 52 : ℚ) ≤ m := by exact_mod_cast hlead
          gcongr
      _ ≤ v := hv
  have hpos : 0 < v := (by positivity : (0 : ℚ) < 2 ^ (e + 52)).trans_le hpow
  have hlog : e + 52 ≤ Int.log 2 v := (Int.zpow_le_iff_le_log one_lt_two hpos).mp hpow
  unfold unitExponent
  omega

theorem represents_mul (hlead : 2 ^ 52 ≤ m * n ∨ e + f ≤ -1074) :
    Represents (s * t) (nearestMagnitude (m * 2 ^ e * (n * 2 ^ f)))
      (UnpackedFloat.mul .binary64 (.finite s m e hm) (.finite t n f hn)) := by
  have hv : ((m * n : Nat) : ℚ) / (1 : Nat) * 2 ^ (e + f) = m * 2 ^ e * (n * 2 ^ f) := by
    rw [zpow_add₀ two_ne_zero]
    push_cast
    ring
  have he : e + f ≤ unitExponent (((m * n : Nat) : ℚ) / (1 : Nat) * 2 ^ (e + f)) := by
    rcases hlead with hlead | hleast
    · exact le_unitExponent hlead (by simp)
    · exact hleast.trans (le_max_right _ _)
  have hround := represents_round (s * t) (Nat.mul_pos hm hn) Nat.one_pos he
  rw [hv, Nat.div_one, Nat.mod_one] at hround
  exact hround

theorem le_log_div (hm : 0 < m) (hn : 0 < n) (e f : ℤ) :
    m.log2 + e - (n.log2 + f) - 1 ≤ Int.log 2 ((m : ℚ) * 2 ^ e / (n * 2 ^ f)) := by
  rw [← Int.zpow_le_iff_le_log one_lt_two (by positivity), Nat.cast_two,
    le_div_iff₀ (by positivity)]
  have hlow : (2 : ℚ) ^ m.log2 ≤ m := by exact_mod_cast Nat.log2_self_le hm.ne'
  have hhigh : (n : ℚ) ≤ 2 ^ (n.log2 + 1) := by exact_mod_cast Nat.lt_log2_self.le
  calc (2 : ℚ) ^ (m.log2 + e - (n.log2 + f) - 1) * (n * 2 ^ f)
      ≤ 2 ^ (m.log2 + e - (n.log2 + f) - 1) * (2 ^ (n.log2 + 1) * 2 ^ f) := by gcongr
    _ = 2 ^ m.log2 * 2 ^ e := by
        rw [← zpow_natCast, ← zpow_natCast, ← zpow_add₀ two_ne_zero, ← zpow_add₀ two_ne_zero,
          ← zpow_add₀ two_ne_zero]
        congr 1
        push_cast
        ring
    _ ≤ m * 2 ^ e := by gcongr

theorem represents_div :
    Represents (s / t) (nearestMagnitude (m * 2 ^ e / (n * 2 ^ f)))
      (UnpackedFloat.div .binary64 (.finite s m e hm) (.finite t n f hn)) := by
  let x := min (e - f) (Format.binary64.targetExponent (totalExponent m e - totalExponent n f))
  obtain ⟨k, hk⟩ : ∃ k : Nat, e - f = x + k :=
    Int.le.dest (min_le_left _ _) |>.imp fun _ h => h.symm
  have hv : ((m * 2 ^ k : Nat) : ℚ) / n * 2 ^ x = m * 2 ^ e / (n * 2 ^ f) := by
    have hx : (2 : ℚ) ^ e = 2 ^ f * 2 ^ k * 2 ^ x := by
      rw [← zpow_natCast, ← zpow_add₀ two_ne_zero, ← zpow_add₀ two_ne_zero]
      congr 1
      omega
    rw [hx]
    push_cast
    field_simp
  have hx : x ≤ unitExponent (((m * 2 ^ k : Nat) : ℚ) / n * 2 ^ x) := by
    have hlog := le_log_div hm hn e f
    have htarget : Format.binary64.targetExponent (totalExponent m e - totalExponent n f) ≤
        unitExponent (m * 2 ^ e / (n * 2 ^ f)) := by
      simp only [Format.targetExponent, totalExponent, Format.mantissaBits, Format.minExponent,
        unitExponent]
      omega
    rw [hv]
    exact (min_le_right _ _).trans htarget
  have hround := represents_round (s / t) (Nat.mul_pos hm (Nat.two_pow_pos k)) hn hx
  rw [hv, ← Nat.shiftLeft_eq] at hround
  have hcore : UnpackedFloat.divCore .binary64 m e n f = (m <<< k / n, x,
      UnpackedFloat.accuracyOfFraction (m <<< k % n) n) := by
    have hs : (e - f - x).toNat = k := by omega
    rw [UnpackedFloat.divCore, hs]
  rw [UnpackedFloat.div, hcore]
  exact hround

end Operations

section Packing

variable {s : UnpackedFloat.Sign} {m : Nat} {e : ℤ}

theorem pack_large (s : UnpackedFloat.Sign) (hm : 0 < m) (he : 972 ≤ e) :
    UnpackedFloat.pack .binary64 (.finite s m e hm) = UnpackedFloat.packedInfinity .binary64 s := by
  have hb : Format.binary64.exponentBias = 1023 := rfl
  have hlarge : 2 ^ 11 ≤ (e + (1023 : Nat) + (52 : Nat)).toNat + 1 := by omega
  simp only [UnpackedFloat.pack, hb, hlarge, if_true]

theorem unpack_packedInfinity (s : UnpackedFloat.Sign) :
    UnpackedFloat.unpack .binary64 (UnpackedFloat.packedInfinity .binary64 s) = .infinity s := by
  cases s <;> rfl

theorem unpack_pack_subnormal (s : UnpackedFloat.Sign) (hm : 0 < m) (hlt : m < 2 ^ 52) :
    UnpackedFloat.unpack .binary64 (UnpackedFloat.pack .binary64 (.finite s m (-1074) hm)) =
      .finite s m (-1074) hm := by
  have hfull : ¬m.log2 + 1 = Format.binary64.mantissaBits := by
    have := (Nat.log2_lt hm.ne').mpr hlt
    simp only [Format.mantissaBits]
    omega
  have hb : Format.binary64.exponentBias = 1023 := rfl
  have hsmall : ¬2 ^ 11 ≤ ((-1074 : ℤ) + (1023 : Nat) + (52 : Nat)).toNat + 1 := by decide
  have hpack : UnpackedFloat.pack .binary64 (.finite s m (-1074) hm) =
      UnpackedFloat.packComponents .binary64 s 0#11 (BitVec.ofNat 52 m) := by
    simp only [UnpackedFloat.pack, hb, hsmall, hfull, if_false]
  have hbits : (BitVec.ofNat 52 m).toNat = m := by
    rw [BitVec.toNat_ofNat, Nat.mod_eq_of_lt hlt]
  have hzero : BitVec.ofNat 52 m ≠ 0#52 := by
    intro hz
    rw [hz] at hbits
    exact hm.ne hbits
  rw [hpack]
  delta UnpackedFloat.unpack
  dsimp only
  rw [UnpackedFloat.unpackExponent_packComponents, if_neg (by decide), if_pos rfl,
    dif_neg (by rwa [UnpackedFloat.unpackMantissa_packComponents])]
  congr 1
  · rw [unpackSign_packComponents, ofBitVec_toBitVec]
  · rw [UnpackedFloat.unpackMantissa_packComponents, hbits]

theorem canonical_lt_overflow (h : Canonical m e) (he : e ≤ 971) : (m : ℚ) * 2 ^ e < overflow := by
  have hlt : (m : ℚ) < 2 ^ (53 : ℤ) := by exact_mod_cast h.lt
  have hle := zpow_le_zpow_right₀ (one_le_two : (1 : ℚ) ≤ 2) he
  calc (m : ℚ) * 2 ^ e < 2 ^ (53 : ℤ) * 2 ^ e := mul_lt_mul_of_pos_right hlt (by positivity)
    _ ≤ 2 ^ (53 : ℤ) * 2 ^ (971 : ℤ) := mul_le_mul_of_nonneg_left hle (by positivity)
    _ = overflow := (zpow_add₀ two_ne_zero 53 971).symm

theorem overflow_le (hlead : 2 ^ 52 ≤ m) (he : 972 ≤ e) : overflow ≤ m * 2 ^ e := by
  have hpow := zpow_le_zpow_right₀ (one_le_two : (1 : ℚ) ≤ 2) he
  rw [overflow_eq]
  exact mul_le_mul (Nat.cast_le.mpr hlead) hpow (by positivity) (Nat.cast_nonneg m)

/-- What is too large for binary64 is packed as infinite, and the rest as it is. -/
theorem Represents.unpack_pack {v : ℚ} {u : UnpackedFloat} (h : Represents s v u) :
    UnpackedFloat.unpack .binary64 (UnpackedFloat.pack .binary64 u) =
      if v < overflow then u else .infinity s := by
  cases h with
  | zero =>
      rw [if_pos overflow_pos]
      cases s <;> rfl
  | @finite m e hc hm =>
      by_cases hlead : 2 ^ 52 ≤ m
      · by_cases he : e ≤ 971
        · have hlog := (Nat.log2_eq_iff hm.ne').mpr ⟨hlead, hc.lt⟩
          rw [if_pos (canonical_lt_overflow hc he)]
          exact unpack_pack_normal ⟨hlog, hc.least, he⟩ s
        · have hlarge : 972 ≤ e := not_le.mp he
          rw [if_neg (overflow_le hlead hlarge).not_gt, pack_large s hm hlarge,
            unpack_packedInfinity]
      · obtain rfl := hc.leading.resolve_left hlead
        rw [if_pos (canonical_lt_overflow hc (by decide))]
        exact unpack_pack_subnormal s hm (not_le.mp hlead)

end Packing

end TableQuery.Rounding
