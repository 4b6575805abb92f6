import Mathlib
import TableQuery.Json.Basic

namespace TableQuery.FloatIntegers

open Float.Model

theorem log2_mul_two_pow {m : Nat} (hm : m ≠ 0) (k : Nat) : (m * 2 ^ k).log2 = m.log2 + k := by
  induction k with
  | zero => simp
  | succ k ih =>
      have hk : m * 2 ^ (k + 1) = 2 * (m * 2 ^ k) := by
        rw [Nat.pow_succ]
        ac_rfl
      rw [hk, Nat.log2_two_mul (Nat.mul_ne_zero hm (by simp)), ih, Nat.add_assoc]

structure Normal (m : Nat) (e : Int) : Prop where
  log2 : m.log2 = 52
  least : -1074 ≤ e
  greatest : e ≤ 971

namespace Normal

variable {m : Nat} {e : Int}

theorem pos (h : Normal m e) : 0 < m := by
  rcases Nat.eq_zero_or_pos m with rfl | hm
  · exact absurd h.log2 (by decide)
  · exact hm

theorem bounds (h : Normal m e) : 2 ^ 52 ≤ m ∧ m < 2 ^ 53 :=
  (Nat.log2_eq_iff (Nat.ne_of_gt h.pos)).mp h.log2

theorem targetExponent (h : Normal m e) :
    Format.binary64.targetExponent (totalExponent m e) = e := by
  have hl := h.least
  simp only [Format.targetExponent, totalExponent, h.log2, Format.mantissaBits, Format.minExponent]
  omega

theorem targetExponent_zeros (h : Normal m e) (k : Nat) :
    Format.binary64.targetExponent (totalExponent (m * 2 ^ k) (e - k)) = e := by
  have hv : totalExponent (m * 2 ^ k) (e - k) = totalExponent m e := by
    rw [totalExponent, totalExponent, log2_mul_two_pow (Nat.ne_of_gt h.pos)]
    omega
  rw [hv, h.targetExponent]

end Normal

theorem shiftRight_zeros (m k : Nat) :
    (⟨m * 2 ^ k, false, false⟩ : UnpackedFloat.ExtendedMantissa) >>> k = ⟨m, false, false⟩ := by
  induction k generalizing m with
  | zero => simp [HShiftRight.hShiftRight, Nat.repeat]
  | succ k ih =>
      have hm : m * 2 ^ (k + 1) = m * 2 * 2 ^ k := by
        rw [Nat.pow_succ']
        ac_rfl
      have hs (x : UnpackedFloat.ExtendedMantissa) : x >>> (k + 1) = (x >>> k).shiftRightOne := rfl
      rw [hs, hm, ih]
      simp [UnpackedFloat.ExtendedMantissa.shiftRightOne]

theorem shiftToExponent_zeros (m k : Nat) (e : Int) :
    UnpackedFloat.shiftToExponent (m * 2 ^ k) (e - k) .exact e = (⟨m, false, false⟩, e) := by
  have hk : (e - (e - k)).toNat = k := by omega
  have he : e - k + (k : Int) = e := by omega
  simp only [UnpackedFloat.shiftToExponent, hk, he,
    UnpackedFloat.ExtendedMantissa.ofMantissaAndAccuracy, shiftRight_zeros]

section Rounding

variable {m : Nat} {e : Int} (h : Normal m e) (s : UnpackedFloat.Sign)

include h

theorem shiftToTargetExponent_zeros (k : Nat) :
    UnpackedFloat.shiftToTargetExponent .binary64 (m * 2 ^ k) (e - k) .exact =
      (⟨m, false, false⟩, e) := by
  rw [UnpackedFloat.shiftToTargetExponent, h.targetExponent_zeros]
  exact shiftToExponent_zeros m k e

/-- Rounding takes the zeros away and changes nothing else. -/
theorem roundWithAccuracy_zeros (k : Nat) :
    UnpackedFloat.roundWithAccuracy .binary64 s (m * 2 ^ k) (e - k) .exact =
      .finite s m e h.pos := by
  have hagain := shiftToTargetExponent_zeros h 0
  simp only [Nat.pow_zero, Nat.mul_one, Int.natCast_zero, Int.sub_zero] at hagain
  have hm : (⟨m, false, false⟩ : UnpackedFloat.ExtendedMantissa).roundedMantissa = m := rfl
  simp only [UnpackedFloat.roundWithAccuracy, shiftToTargetExponent_zeros h k, hm, hagain,
    Nat.ne_of_gt h.pos, dif_neg, not_false_eq_true]

theorem roundWithAccuracy_normal :
    UnpackedFloat.roundWithAccuracy .binary64 s m e .exact = .finite s m e h.pos := by
  simpa using roundWithAccuracy_zeros h s 0

end Rounding

section Packing

theorem unpackSign_packComponents (s : UnpackedFloat.Sign) (exponent : BitVec 11)
    (mantissa : BitVec 52) :
    UnpackedFloat.unpackSign (UnpackedFloat.packComponents .binary64 s exponent mantissa) =
      s.toBitVec := by
  ext i hi
  obtain rfl : i = 0 := by omega
  have hb : ((s.toBitVec ++ exponent) ++ mantissa).getLsbD 63 = s.toBitVec.getLsbD 0 := by
    rw [BitVec.getLsbD_append, BitVec.getLsbD_append]
    rfl
  simp only [UnpackedFloat.unpackSign, UnpackedFloat.packComponents, Nat.reduceAdd, Nat.reduceSub,
    BitVec.cast_eq, BitVec.getElem_extract, Nat.add_zero]
  exact hb

theorem ofBitVec_toBitVec (s : UnpackedFloat.Sign) :
    UnpackedFloat.Sign.ofBitVec s.toBitVec = s := by
  cases s <;> rfl

theorem one_append_toNat {m : Nat} (h : 2 ^ 52 ≤ m ∧ m < 2 ^ 53) :
    (1#1 ++ BitVec.ofNat 52 m).toNat = m := by
  rw [BitVec.toNat_append, BitVec.toNat_ofNat, BitVec.toNat_ofNat, Nat.shiftLeft_eq]
  have hm : m % 2 ^ 52 < 2 ^ 52 := Nat.mod_lt _ (by decide)
  rw [Nat.or_comm, Nat.mod_eq_of_lt (by decide : 1 < 2 ^ 1), Nat.one_mul,
    Nat.or_two_pow_eq_add_of_lt hm]
  omega

theorem pack_normal {m : Nat} {e : Int} (h : Normal m e) (s : UnpackedFloat.Sign) :
    UnpackedFloat.pack .binary64 (.finite s m e h.pos) =
      UnpackedFloat.packComponents .binary64 s (BitVec.ofNat 11 (e + 1075).toNat)
        (BitVec.ofNat 52 m) := by
  have he : e + (1023 : Nat) + (52 : Nat) = e + 1075 := by omega
  have hg := h.greatest
  have hsmall : ¬2 ^ 11 ≤ (e + 1075).toNat + 1 := by omega
  have hb : Format.binary64.exponentBias = 1023 := rfl
  have hfull : m.log2 + 1 = Format.binary64.mantissaBits := by rw [h.log2]; rfl
  simp only [UnpackedFloat.pack, hb, he, hsmall, if_false, hfull, if_true]

theorem unpack_pack_normal {m : Nat} {e : Int} (h : Normal m e) (s : UnpackedFloat.Sign) :
    UnpackedFloat.unpack .binary64 (UnpackedFloat.pack .binary64 (.finite s m e h.pos)) =
      .finite s m e h.pos := by
  have hl := h.least
  have hg := h.greatest
  have hexp : (BitVec.ofNat 11 (e + 1075).toNat).toNat = (e + 1075).toNat := by
    rw [BitVec.toNat_ofNat]
    omega
  have hnan : BitVec.ofNat 11 (e + 1075).toNat ≠ -1#11 := by
    intro hv
    have hn := congrArg BitVec.toNat hv
    rw [hexp] at hn
    simp at hn
    omega
  have hzero : BitVec.ofNat 11 (e + 1075).toNat ≠ 0#11 := by
    intro hv
    have hn := congrArg BitVec.toNat hv
    rw [hexp] at hn
    simp at hn
    omega
  rw [pack_normal h]
  delta UnpackedFloat.unpack
  dsimp only
  rw [UnpackedFloat.unpackExponent_packComponents, if_neg hnan, if_neg hzero]
  congr 1
  · rw [unpackSign_packComponents, ofBitVec_toBitVec]
  · rw [UnpackedFloat.unpackMantissa_packComponents, one_append_toNat h.bounds]
  · rw [hexp]
    have hb : Format.binary64.exponentBias = 1023 := rfl
    rw [hb]
    omega

end Packing

section Naturals

variable {n : Nat}

theorem normal_of_lt (hn : 0 < n) (hb : n < 2 ^ 53) :
    Normal (n * 2 ^ (52 - n.log2)) ((n.log2 : Int) - 52) := by
  have hl : n.log2 < 53 := (Nat.log2_lt (Nat.ne_of_gt hn)).mpr hb
  have hm := log2_mul_two_pow (Nat.ne_of_gt hn) (52 - n.log2)
  exact ⟨by omega, by omega, by omega⟩

theorem round_ofNat (hn : 0 < n) (hb : n < 2 ^ 53) (s : UnpackedFloat.Sign) :
    UnpackedFloat.round .binary64 s n 0 =
      .finite s (n * 2 ^ (52 - n.log2)) ((n.log2 : Int) - 52) (normal_of_lt hn hb).pos := by
  have h := normal_of_lt hn hb
  have hl : n.log2 < 53 := (Nat.log2_lt (Nat.ne_of_gt hn)).mpr hb
  have ht : Format.binary64.targetExponent (totalExponent n 0) = (n.log2 : Int) - 52 := by
    have hv : totalExponent n 0 =
        totalExponent (n * 2 ^ (52 - n.log2)) ((n.log2 : Int) - 52) := by
      rw [totalExponent, totalExponent, h.log2]
      omega
    rw [hv, h.targetExponent]
  have hk : (0 - ((n.log2 : Int) - 52)).toNat = 52 - n.log2 := by omega
  have he : (0 : Int) - ((52 - n.log2 : Nat) : Int) = (n.log2 : Int) - 52 := by omega
  simp only [UnpackedFloat.round, UnpackedFloat.decreaseExponent, ht, hk, he, Nat.shiftLeft_eq]
  exact roundWithAccuracy_normal h s

theorem roundToInt_zeros (n k : Nat) :
    UnpackedFloat.roundToInt .positive (n * 2 ^ k) (-k) = n := by
  have hk : (-(k : Int)).toNat = 0 := by omega
  have hz := shiftToExponent_zeros n k 0
  rw [Int.zero_sub] at hz
  simp only [UnpackedFloat.roundToInt, UnpackedFloat.decreaseExponent, hk, Nat.shiftLeft_zero,
    Int.natCast_zero, Int.sub_zero, hz]
  rfl

theorem unpack_ofUInt64 (hn : 0 < n) (hb : n < 2 ^ 53) :
    (Float.Model.ofUInt64 n.toUInt64).unpack =
      .finite .positive (n * 2 ^ (52 - n.log2)) ((n.log2 : Int) - 52) (normal_of_lt hn hb).pos := by
  have hw : n.toUInt64.toNat = n := UInt64.toNat_ofNat_of_lt (Nat.lt_trans hb (by decide))
  have hc : compare (n : Int) 0 = .gt := Int.compare_eq_gt.mpr (by omega)
  have hr : UnpackedFloat.ofUInt64 .binary64 n.toUInt64 =
      .finite .positive (n * 2 ^ (52 - n.log2)) ((n.log2 : Int) - 52) (normal_of_lt hn hb).pos := by
    rw [UnpackedFloat.ofUInt64, UnpackedFloat.ofNat, UnpackedFloat.ofInt, hw,
      UnpackedFloat.normalize, hc]
    exact round_ofNat hn hb .positive
  change UnpackedFloat.unpack .binary64
    (UnpackedFloat.pack .binary64 (UnpackedFloat.ofUInt64 .binary64 n.toUInt64)) = _
  rw [hr, unpack_pack_normal (normal_of_lt hn hb)]

theorem mul_one_normal {m : Nat} {e : Int} (h : Normal m e) :
    UnpackedFloat.mul .binary64 (.finite .positive m e h.pos)
      (.finite .positive (2 ^ 52) (-52) (by decide)) = .finite .positive m e h.pos :=
  roundWithAccuracy_zeros h .positive 52

theorem unpack_ofNat (hn : 0 < n) (hb : n < 2 ^ 53) :
    (Float.ofNat n).toModel.unpack =
      .finite .positive (n * 2 ^ (52 - n.log2)) ((n.log2 : Int) - 52) (normal_of_lt hn hb).pos := by
  have hone : (Float.Model.ofBits 0x3FF0000000000000).unpack =
      .finite .positive (2 ^ 52) (-52) (by decide) := rfl
  have hmul : Float.ofNat n =
      .ofModel (.pack (UnpackedFloat.mul .binary64 (Float.Model.ofUInt64 n.toUInt64).unpack
        (Float.Model.ofBits 0x3FF0000000000000).unpack)) := by
    change Float.ofScientific n false 0 = _
    rw [Float.ofScientific, dif_pos ⟨hb, by decide⟩]
    rfl
  rw [hmul, unpack_ofUInt64 hn hb, hone, mul_one_normal (normal_of_lt hn hb)]
  exact unpack_pack_normal (normal_of_lt hn hb) .positive

theorem toNat_toUInt64_normal (hn : 0 < n) (hb : n < 2 ^ 53) :
    (UnpackedFloat.toUInt64 (.finite .positive (n * 2 ^ (52 - n.log2)) ((n.log2 : Int) - 52)
      (normal_of_lt hn hb).pos)).toNat = n := by
  have hl : n.log2 < 53 := (Nat.log2_lt (Nat.ne_of_gt hn)).mpr hb
  have he : (n.log2 : Int) - 52 = -((52 - n.log2 : Nat) : Int) := by omega
  have hi : UnpackedFloat.toInt 0 (UInt64.size - 1) (.finite .positive (n * 2 ^ (52 - n.log2))
      ((n.log2 : Int) - 52) (normal_of_lt hn hb).pos) = n := by
    rw [UnpackedFloat.toInt, he]
    exact roundToInt_zeros n _
  rw [UnpackedFloat.toUInt64, hi, Int.toNat_natCast]
  have hs : n < UInt64.size := Nat.lt_trans hb (by decide)
  rw [UInt64.ofNatClamp, dif_pos hs]
  rfl

theorem toNat_toUInt64_ofNat (h : n ≤ 2 ^ 53) : (Float.ofNat n).toUInt64.toNat = n := by
  rcases Nat.lt_or_eq_of_le h with hb | rfl
  · rcases Nat.eq_zero_or_pos n with rfl | hn
    · rfl
    · change ((Float.ofNat n).toModel.unpack.toUInt64).toNat = n
      rw [unpack_ofNat hn hb, toNat_toUInt64_normal hn hb]
  · rfl

end Naturals

end TableQuery.FloatIntegers
