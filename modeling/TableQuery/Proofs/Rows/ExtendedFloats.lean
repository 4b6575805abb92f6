import Mathlib
import TableQuery.Proofs.Rows.RoundedFloats

namespace TableQuery

open Float.Model FloatOrder FloatValues Rounding

namespace Rounding

/-- What a number denotes; an infinite one counts as the least that binary64 does not have. -/
def extended : UnpackedFloat → ℚ
  | .infinity .positive => overflow
  | .infinity .negative => -overflow
  | u => rational u

section Order

variable {s : UnpackedFloat.Sign} {m : Nat} {e : ℤ} {a b : BitVec 64}

theorem greatest_unpack {hm : 0 < m}
    (h : UnpackedFloat.unpack .binary64 b = .finite s m e hm) : e ≤ 971 := by
  have hv := (exponentField b).isLt
  delta UnpackedFloat.unpack at h
  dsimp only at h
  by_cases he : exponentField b = -1#11
  · rw [if_pos he] at h
    split at h <;> cases h
  · rw [if_neg he] at h
    have hne : (exponentField b).toNat ≠ 2047 := fun hn => he (BitVec.eq_of_toNat_eq hn)
    by_cases hs : exponentField b = 0#11
    · rw [if_pos hs] at h
      split at h
      · cases h
      · have hz : (exponentField b).toNat = 0 := congrArg BitVec.toNat hs
        injection h with _ _ he'
        change ((exponentField b).toNat : Int) - ((1023 : Nat) + (52 : Nat)) + 1 = e at he'
        omega
    · rw [if_neg hs] at h
      injection h with _ _ he'
      change ((exponentField b).toNat : Int) - ((1023 : Nat) + (52 : Nat)) = e at he'
      omega

theorem abs_rational_lt (b : BitVec 64) :
    |rational (UnpackedFloat.unpack .binary64 b)| < overflow := by
  cases hu : UnpackedFloat.unpack .binary64 b with
  | notANumber | infinity | zero =>
      rw [rational, abs_zero]
      exact overflow_pos
  | finite s m e hm =>
      have hlt := canonical_lt_overflow (canonical_unpack hu) (greatest_unpack hu)
      have hnonneg : (0 : ℚ) ≤ m * 2 ^ e := by positivity
      cases s with
      | negative =>
          rw [rational_eq_neg, abs_neg, abs_of_nonneg hnonneg]
          exact hlt
      | positive =>
          rw [rational_eq, abs_of_nonneg hnonneg]
          exact hlt

theorem extended_of_isFinite {u : UnpackedFloat} (hu : u.isFinite = true) :
    extended u = rational u := by
  cases u with
  | infinity => cases hu
  | _ => rfl

theorem compare_rank_infinity {u : UnpackedFloat} (hu : u.isFinite = true)
    (hlt : |rational u| < overflow) (s : UnpackedFloat.Sign) :
    compare (rank u) (rank (.infinity s)) = compare (extended u) (extended (.infinity s)) := by
  obtain ⟨hlow, hhigh⟩ := abs_lt.mp hlt
  rw [extended_of_isFinite hu]
  cases s with
  | negative =>
      rw [extended, compare_gt_iff_gt.mpr hlow]
      cases u with
      | notANumber | infinity => cases hu
      | zero => rfl
      | finite s => cases s <;> rfl
  | positive =>
      rw [extended, compare_lt_iff_lt.mpr hhigh]
      cases u with
      | notANumber | infinity => cases hu
      | zero => rfl
      | finite s => cases s <;> rfl

theorem compare_infinities (s t : UnpackedFloat.Sign) :
    compare (rank (.infinity s)) (rank (.infinity t)) =
      compare (extended (.infinity s)) (extended (.infinity t)) := by
  have hlt : -overflow < overflow := neg_lt_self overflow_pos
  cases s <;> cases t
  · exact (compare_eq_iff_eq.mpr rfl).symm
  · exact (compare_lt_iff_lt.mpr hlt).symm
  · exact (compare_gt_iff_gt.mpr hlt).symm
  · exact (compare_eq_iff_eq.mpr rfl).symm

theorem infinity_or_isFinite {u : UnpackedFloat} (hn : u.isNaN = false) :
    (∃ s, u = .infinity s) ∨ u.isFinite = true := by
  cases u with
  | notANumber => cases hn
  | infinity s => exact .inl ⟨s, rfl⟩
  | _ => exact .inr rfl

theorem compare_rank_extended (ha : (UnpackedFloat.unpack .binary64 a).isNaN = false)
    (hb : (UnpackedFloat.unpack .binary64 b).isNaN = false) :
    compare (rank (UnpackedFloat.unpack .binary64 a)) (rank (UnpackedFloat.unpack .binary64 b)) =
      compare (extended (UnpackedFloat.unpack .binary64 a))
        (extended (UnpackedFloat.unpack .binary64 b)) := by
  have hlt := abs_rational_lt
  rcases infinity_or_isFinite ha with ⟨s, hs⟩ | hfa <;>
    rcases infinity_or_isFinite hb with ⟨t, ht⟩ | hfb
  · rw [hs, ht, compare_infinities]
  · rw [hs, Std.OrientedOrd.eq_swap, compare_rank_infinity hfb (hlt b) s,
      ← Std.OrientedOrd.eq_swap]
  · rw [ht, compare_rank_infinity hfa (hlt a) t]
  · rw [extended_of_isFinite hfa, extended_of_isFinite hfb]
    exact compare_rank ⟨hfa, fun _ _ _ _ => canonical_unpack⟩ ⟨hfb, fun _ _ _ _ => canonical_unpack⟩

theorem unpack_pack_neg (hn : (UnpackedFloat.unpack .binary64 b).isNaN = false) :
    UnpackedFloat.unpack .binary64
        (UnpackedFloat.pack .binary64 (UnpackedFloat.unpack .binary64 b).neg) =
      (UnpackedFloat.unpack .binary64 b).neg := by
  cases hu : UnpackedFloat.unpack .binary64 b with
  | notANumber => rw [hu] at hn; cases hn
  | infinity s => exact unpack_packedInfinity (-s)
  | zero s => cases s <;> rfl
  | finite s m e hm =>
      have hc := canonical_unpack hu
      have hr : Represents (-s) (m * 2 ^ e) (.finite (-s) m e hm) := .finite hc hm
      exact hr.unpack_pack.trans (if_pos (canonical_lt_overflow hc (greatest_unpack hu)))

theorem extended_neg {u : UnpackedFloat} : extended u.neg = -extended u := by
  rcases u with (_ | _) | _ | _ | ⟨_ | _, m, e, hm⟩
  · exact (neg_neg _).symm
  · rfl
  · exact neg_zero.symm
  · exact neg_zero.symm
  · rw [extended_of_isFinite rfl, extended_of_isFinite rfl, rational_eq_neg, neg_neg]
    exact rational_eq m e hm
  · rw [extended_of_isFinite rfl, extended_of_isFinite rfl, rational_eq]
    exact rational_eq_neg m e hm

end Order
end Rounding

namespace Decimal

def extendedOf (x : Float) : ℚ := extended x.toModel.unpack

section Operations

variable {x y : Float}

theorem compare_key_extended (hx : x.isNaN = false) (hy : y.isNaN = false) :
    compare (key x) (key y) = compare (extendedOf x) (extendedOf y) := compare_rank_extended hx hy

theorem lt_iff_extendedOf (hx : x.isNaN = false) (hy : y.isNaN = false) :
    x < y ↔ extendedOf x < extendedOf y := by
  rw [lt_iff hx hy, compare_key_extended hx hy, compare_lt_iff_lt]

theorem le_iff_extendedOf (hx : x.isNaN = false) (hy : y.isNaN = false) :
    x ≤ y ↔ extendedOf x ≤ extendedOf y := by
  have hc : x.toModel.unpack.compare y.toModel.unpack = some (compare (key x) (key y)) :=
    compare_eq_compare_rank hx hy
  change (decide (x.toModel.unpack.le y.toModel.unpack = true)) = true ↔ _
  rw [UnpackedFloat.le, hc, compare_key_extended hx hy, ← compare_le_iff_le]
  cases compare (extendedOf x) (extendedOf y) <;> simp

theorem extendedOf_of_isFinite (hx : x.isFinite = true) : extendedOf x = valueOf x := by
  rw [valueOf_eq_rational hx]
  exact extended_of_isFinite hx

theorem unpack_neg (hx : x.isNaN = false) : (-x).toModel.unpack = x.toModel.unpack.neg :=
  unpack_pack_neg hx

theorem extendedOf_neg (hx : x.isNaN = false) : extendedOf (-x) = -extendedOf x := by
  rw [extendedOf, unpack_neg hx, extended_neg]
  rfl

theorem isFinite_of_neg (h : (-x).isFinite = true) : x.isFinite = true := by
  have hn : x.isNaN = false := by
    change x.toModel.unpack.isNaN = false
    cases hu : x.toModel.unpack with
    | notANumber =>
        have hneg : -x = .ofModel (.pack x.toModel.unpack.neg) := rfl
        rw [hneg, hu] at h
        cases h
    | _ => rfl
  change (-x).toModel.unpack.isFinite = true at h
  change x.toModel.unpack.isFinite = true
  rw [unpack_neg hn] at h
  revert h
  cases x.toModel.unpack <;> exact id

theorem extendedOf_pack {s : UnpackedFloat.Sign} {v : ℚ} {u : UnpackedFloat}
    (h : Represents s (nearestMagnitude v) u) :
    extendedOf (.ofModel (.pack u)) = (s.apply 1 : ℤ) * boundedMagnitude v := by
  have hu : (Float.ofModel (.pack u)).toModel.unpack = _ := h.unpack_pack
  rw [extendedOf, hu, boundedMagnitude]
  by_cases hlt : nearestMagnitude v < overflow
  · rw [if_pos hlt, min_eq_right hlt.le]
    generalize nearestMagnitude v = w at h
    cases h with
    | zero => exact (mul_zero _).symm
    | @finite m e hc hm => cases s <;> simp [extended, rational, UnpackedFloat.Sign.apply]
  · rw [if_neg hlt, min_eq_left (not_lt.mp hlt)]
    cases s <;> simp [extended, UnpackedFloat.Sign.apply]

theorem extendedOf_pack_positive {v : ℚ} {u : UnpackedFloat}
    (h : Represents .positive (nearestMagnitude v) u) :
    extendedOf (.ofModel (.pack u)) = boundedMagnitude v := by
  simpa [UnpackedFloat.Sign.apply] using extendedOf_pack h

theorem exists_unpack (hx : x.isFinite = true) (hpos : 0 < valueOf x) :
    ∃ m e, ∃ hm : 0 < m, x.toModel.unpack = .finite .positive m e hm ∧ Canonical m e ∧
      (m : ℚ) * 2 ^ e = valueOf x := by
  rw [valueOf_eq_rational hx] at hpos ⊢
  cases hu : x.toModel.unpack with
  | notANumber | infinity | zero =>
      rw [hu, rational] at hpos
      exact absurd hpos (lt_irrefl 0)
  | finite s m e hm =>
      cases s with
      | negative =>
          rw [hu] at hpos
          exact absurd hpos (rational_negative m e hm).not_gt
      | positive => exact ⟨m, e, hm, rfl, canonical_unpack hu, (rational_eq m e hm).symm⟩

theorem div_eq_pack (x y : Float) : x / y = .ofModel (.pack (UnpackedFloat.div .binary64
    x.toModel.unpack y.toModel.unpack)) := rfl

section Positive

variable (hx : x.isFinite = true) (hy : y.isFinite = true)
variable (hpx : 0 < valueOf x) (hpy : 0 < valueOf y)

include hx hy hpx hpy

theorem extendedOf_mul : extendedOf (x * y) = boundedMagnitude (valueOf x * valueOf y) := by
  obtain ⟨m, e, hm, hu, hcm, hvx⟩ := exists_unpack hx hpx
  obtain ⟨n, f, hn, hw, hcn, hvy⟩ := exists_unpack hy hpy
  have hlead : 2 ^ 52 ≤ m * n ∨ e + f ≤ -1074 := by
    rcases hcm.leading with h | h
    · exact .inl (h.trans (Nat.le_mul_of_pos_right m hn))
    · rcases hcn.leading with h' | h'
      · exact .inl (h'.trans (Nat.le_mul_of_pos_left n hm))
      · exact .inr (by omega)
  have hmul : x * y = .ofModel (.pack (UnpackedFloat.mul .binary64 x.toModel.unpack
      y.toModel.unpack)) := rfl
  rw [hmul, hu, hw, ← hvx, ← hvy]
  exact extendedOf_pack_positive (represents_mul .positive .positive hm hn hlead)

theorem isNaN_div : (x / y).isNaN = false := by
  obtain ⟨m, e, hm, hu, -⟩ := exists_unpack hx hpx
  obtain ⟨n, f, hn, hw, -⟩ := exists_unpack hy hpy
  rw [div_eq_pack, hu, hw]
  exact isNaN_ofModel_pack (isNaN_roundWithAccuracy ..)

theorem extendedOf_div : extendedOf (x / y) = boundedMagnitude (valueOf x / valueOf y) := by
  obtain ⟨m, e, hm, hu, -, hvx⟩ := exists_unpack hx hpx
  obtain ⟨n, f, hn, hw, -, hvy⟩ := exists_unpack hy hpy
  rw [div_eq_pack, hu, hw, ← hvx, ← hvy]
  exact extendedOf_pack_positive (represents_div .positive .positive hm hn)

end Positive

theorem boundedValue_valueOf (hf : x.isFinite = true) : boundedValue (valueOf x) = valueOf x := by
  have hmagnitude {m : Nat} {e : ℤ} {s : UnpackedFloat.Sign} {hm : 0 < m}
      (hu : x.toModel.unpack = .finite s m e hm) : boundedValue (m * 2 ^ e) = m * 2 ^ e := by
    have hc := canonical_unpack hu
    have hlt := canonical_lt_overflow hc (greatest_unpack hu)
    rw [boundedValue_of_nonneg (by positivity), boundedMagnitude, nearestMagnitude_canonical hc,
      min_eq_right hlt.le]
  rw [valueOf_eq_rational hf]
  cases hu : x.toModel.unpack with
  | notANumber | infinity | zero =>
      rw [rational, boundedValue_of_nonneg le_rfl, boundedMagnitude_zero]
  | finite s m e hm =>
      cases s with
      | negative => rw [rational_eq_neg, boundedValue_neg, hmagnitude hu]
      | positive => rw [rational_eq, hmagnitude hu]

end Operations

end Decimal
end TableQuery
