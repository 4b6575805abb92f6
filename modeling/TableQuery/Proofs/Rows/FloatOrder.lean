import Mathlib
import TableQuery.Rows.Cell

namespace TableQuery.FloatOrder

open Float.Model

/-- The class of a number by sign and size; within a class of finite numbers the exponent decides
and then the mantissa. -/
def rank : UnpackedFloat → List Int
  | .notANumber => []
  | .infinity .negative => [-2]
  | .finite .negative m e _ => [-1, -e, -m]
  | .zero _ => [0]
  | .finite .positive m e _ => [1, e, m]
  | .infinity .positive => [2]

def key (x : Float) : List Int := rank x.toModel.unpack

theorem compare_neg (m n : Int) : compare (-m) (-n) = compare n m := by
  simp only [compare, compareOfLessAndEq, Int.neg_lt_neg_iff, Int.neg_inj, eq_comm]

theorem compare_cast (m n : Nat) : compare (m : Int) (n : Int) = compare m n := by
  simp only [compare, compareOfLessAndEq, Int.ofNat_lt, Int.ofNat_inj]

theorem compare_finite_negative (m n : Nat) (e f : Int) (hm : 0 < m) (hn : 0 < n) :
    UnpackedFloat.compare (.finite .negative m e hm) (.finite .negative n f hn) =
      some (compare [-1, -e, -(m : Int)] [-1, -f, -(n : Int)]) := by
  have hs : ((compare e f).then (compare m n)).swap = (compare f e).then (compare n m) := by
    rw [Ordering.swap_then, ← Std.OrientedOrd.eq_swap, ← Std.OrientedOrd.eq_swap]
  change some ((compare e f).then (compare m n)).swap = _
  simp [List.compare_cons_cons, compare_neg, compare_cast, hs]

theorem compare_finite_positive (m n : Nat) (e f : Int) (hm : 0 < m) (hn : 0 < n) :
    UnpackedFloat.compare (.finite .positive m e hm) (.finite .positive n f hn) =
      some (compare [1, e, (m : Int)] [1, f, (n : Int)]) := by
  change some ((compare e f).then (compare m n)) = _
  simp [List.compare_cons_cons, compare_cast]

theorem compare_eq_compare_rank {x y : UnpackedFloat} (hx : x.isNaN = false)
    (hy : y.isNaN = false) : x.compare y = some (compare (rank x) (rank y)) := by
  cases x with
  | notANumber => cases hx
  | infinity s =>
      cases s <;> rcases y with (_ | _) | _ | _ | ⟨_ | _, _, _, _⟩ <;> first | rfl | cases hy
  | zero s => rcases y with (_ | _) | _ | _ | ⟨_ | _, _, _, _⟩ <;> first | rfl | cases hy
  | finite s m e hm =>
      cases s with
      | negative =>
          rcases y with (_ | _) | _ | _ | ⟨_ | _, n, f, hn⟩ <;> try first | rfl | contradiction
          exact compare_finite_negative m n e f hm hn
      | positive =>
          rcases y with (_ | _) | _ | _ | ⟨_ | _, n, f, hn⟩ <;> try first | rfl | contradiction
          exact compare_finite_positive m n e f hm hn

theorem lt_iff {x y : Float} (hx : x.isNaN = false) (hy : y.isNaN = false) :
    x < y ↔ compare (key x) (key y) = .lt := by
  have hc : x.toModel.unpack.compare y.toModel.unpack = some (compare (key x) (key y)) :=
    compare_eq_compare_rank hx hy
  change (decide (x.toModel.unpack.lt y.toModel.unpack = true)) = true ↔ _
  rw [UnpackedFloat.lt, hc]
  simp

section NotANumber

variable {spec : Format}

theorem isNaN_dite {c : Prop} [Decidable c] {x : c → UnpackedFloat} {y : ¬c → UnpackedFloat}
    (hx : ∀ h, (x h).isNaN = false) (hy : ∀ h, (y h).isNaN = false) :
    (if h : c then x h else y h).isNaN = false := by
  by_cases hc : c
  · rw [dif_pos hc]
    exact hx hc
  · rw [dif_neg hc]
    exact hy hc

theorem isNaN_unpack_packComponents (s : UnpackedFloat.Sign) {exponent : BitVec spec.exponentBits}
    {mantissa : BitVec spec.mantissaBitsWithoutImplicit} (h : exponent = -1#_ → mantissa = 0#_) :
    (UnpackedFloat.unpack spec (UnpackedFloat.packComponents spec s exponent mantissa)).isNaN =
      false := by
  delta UnpackedFloat.unpack
  dsimp only
  rw [UnpackedFloat.unpackExponent_packComponents]
  by_cases he : exponent = -1#_
  · rw [if_pos he, if_pos (UnpackedFloat.unpackMantissa_packComponents.trans (h he))]
    rfl
  · rw [if_neg he]
    by_cases hz : exponent = 0#_
    · rw [if_pos hz]
      exact isNaN_dite (fun _ => rfl) fun _ => rfl
    · rw [if_neg hz]
      rfl

theorem isNaN_unpack_pack {x : UnpackedFloat} (hx : x.isNaN = false) :
    (UnpackedFloat.unpack spec (UnpackedFloat.pack spec x)).isNaN = false := by
  have hpow := Nat.one_lt_two_pow (Nat.pos_iff_ne_zero.mp spec.he)
  fun_cases UnpackedFloat.pack spec x with
  | case1 => cases hx
  | case2 s => exact isNaN_unpack_packComponents s fun _ => rfl
  | case3 s => exact isNaN_unpack_packComponents s fun _ => rfl
  | case4 s m e hm biased h => exact isNaN_unpack_packComponents s fun _ => rfl
  | case5 s m e hm bits biased h _ =>
      refine isNaN_unpack_packComponents s fun he => ?_
      have hn := congrArg BitVec.toNat he
      rw [BitVec.neg_one_eq_allOnes, BitVec.toNat_ofNat, BitVec.toNat_allOnes,
        Nat.mod_eq_of_lt (by omega)] at hn
      omega
  | case6 s m e hm bits biased h _ =>
      refine isNaN_unpack_packComponents s fun he => ?_
      have hn := congrArg BitVec.toNat he
      rw [BitVec.neg_one_eq_allOnes, BitVec.toNat_ofNat, BitVec.toNat_allOnes, Nat.zero_mod] at hn
      omega

theorem isNaN_ofModel_pack {x : UnpackedFloat} (hx : x.isNaN = false) :
    (Float.ofModel (.pack x)).isNaN = false := isNaN_unpack_pack hx

theorem isNaN_roundWithAccuracy (s : UnpackedFloat.Sign) (m : Nat) (e : Int)
    (a : UnpackedFloat.Accuracy) :
    (UnpackedFloat.roundWithAccuracy spec s m e a).isNaN = false := by
  unfold UnpackedFloat.roundWithAccuracy
  exact isNaN_dite (fun _ => rfl) fun _ => rfl

theorem isNaN_normalize (m e : Int) (zeroSign : UnpackedFloat.Sign) :
    (UnpackedFloat.normalize spec m e zeroSign).isNaN = false := by
  unfold UnpackedFloat.normalize
  split
  · exact isNaN_roundWithAccuracy ..
  · rfl
  · exact isNaN_roundWithAccuracy ..

theorem isNaN_mul_finite {x : UnpackedFloat} (hx : x.isNaN = false) (s : UnpackedFloat.Sign)
    (m : Nat) (e : Int) (hm : 0 < m) :
    (UnpackedFloat.mul spec x (.finite s m e hm)).isNaN = false := by
  cases x with
  | notANumber => cases hx
  | infinity s => rfl
  | zero s => rfl
  | finite s' m' e' hm' => exact isNaN_roundWithAccuracy ..

theorem isNaN_ofScientific (n : Nat) : (UnpackedFloat.ofScientific spec n 0).isNaN = false := by
  unfold UnpackedFloat.ofScientific
  refine isNaN_dite (fun _ => rfl) fun hn => ?_
  have hlarge : ¬(0 : Int) > 2 ^ spec.exponentBits := by
    have hp : (0 : Int) < 2 ^ spec.exponentBits := Int.pow_pos (by decide)
    omega
  have hsmall : ¬(0 : Int) < -((2 ^ spec.exponentBits : Int) + n.log2) := by
    omega
  rw [if_neg hlarge, if_neg hsmall, if_pos (Int.le_refl 0)]
  exact isNaN_mul_finite rfl ..

end NotANumber

theorem isNaN_ofNat (n : Nat) : (Float.ofNat n).isNaN = false := by
  change (Float.ofScientific n false 0).isNaN = false
  unfold Float.ofScientific
  split
  · have hone : (Float.Model.ofBits 0x3FF0000000000000).unpack =
        .finite .positive (2 ^ 52) (-52) (by decide) := rfl
    have hn : (Float.Model.ofUInt64 n.toUInt64).unpack.isNaN = false :=
      isNaN_unpack_pack (isNaN_normalize ..)
    change (Float.ofModel (.pack (UnpackedFloat.mul .binary64
      (Float.Model.ofUInt64 n.toUInt64).unpack
      (Float.Model.ofBits 0x3FF0000000000000).unpack))).isNaN = false
    rw [hone]
    exact isNaN_ofModel_pack (isNaN_mul_finite hn ..)
  · exact isNaN_ofModel_pack (isNaN_ofScientific n)

theorem isNaN_neg {x : Float} (hx : x.isNaN = false) : (-x).isNaN = false := by
  refine isNaN_ofModel_pack (x := x.toModel.unpack.neg) ?_
  change x.toModel.unpack.isNaN = false at hx
  cases hu : x.toModel.unpack with
  | notANumber => rw [hu] at hx; cases hx
  | _ => rfl

theorem isNaN_intToFloat (n : Int) : (intToFloat n).isNaN = false := by
  unfold intToFloat
  split
  · exact isNaN_neg (isNaN_ofNat _)
  · exact isNaN_ofNat _

theorem isNaN_of_isFinite {x : Float} (hx : x.isFinite = true) : x.isNaN = false := by
  change x.toModel.unpack.isFinite = true at hx
  change x.toModel.unpack.isNaN = false
  cases hu : x.toModel.unpack with
  | notANumber => rw [hu] at hx; cases hx
  | _ => rfl

end TableQuery.FloatOrder

namespace TableQuery.Cell

open FloatOrder

theorem number?_isNaN {j : Json} {x : Float} (h : number? j = some x) : x.isNaN = false := by
  cases j with
  | int n =>
      obtain rfl := Option.some.inj h
      exact isNaN_intToFloat n
  | float y =>
      obtain rfl := Option.some.inj h
      exact isNaN_of_isFinite y.finite
  | str s =>
      obtain ⟨_, hf⟩ := Option.filter_eq_some_iff.mp h
      exact isNaN_of_isFinite hf
  | _ => cases h

theorem compareFloats_eq_compare_key {x y : Float} (hx : x.isNaN = false) (hy : y.isNaN = false) :
    compareFloats x y = Ord.compare (key x) (key y) := by
  have hs : Ord.compare (key y) (key x) = (Ord.compare (key x) (key y)).swap :=
    Std.OrientedOrd.eq_swap
  simp only [compareFloats, lt_iff hx hy, lt_iff hy hx, hs]
  cases Ord.compare (key x) (key y) <;> rfl

end TableQuery.Cell
