import TableQuery.Proofs.Rows.CellOrder
import TableQuery.Rows.Aggregate

namespace TableQuery.FloatOrder

open Float.Model
open Std (OrientedCmp TransCmp TransOrd LawfulEqOrd)

section Bits

variable {b c : BitVec 64}

abbrev signBit (b : BitVec 64) : BitVec 1 := @UnpackedFloat.unpackSign .binary64 b

abbrev exponentField (b : BitVec 64) : BitVec 11 := @UnpackedFloat.unpackExponent .binary64 b

abbrev mantissaField (b : BitVec 64) : BitVec 52 := @UnpackedFloat.unpackMantissa .binary64 b

theorem toNat_signBit (b : BitVec 64) : (signBit b).toNat = b.toNat / 2 ^ 63 := by
  have hb := b.isLt
  simp only [signBit, UnpackedFloat.unpackSign, BitVec.toNat_cast, BitVec.extractLsb_toNat,
    Nat.shiftRight_eq_div_pow]
  change b.toNat / 2 ^ 63 % 2 ^ 1 = _
  exact Nat.mod_eq_of_lt (by omega)

theorem toNat_exponentField (b : BitVec 64) :
    (exponentField b).toNat = b.toNat / 2 ^ 52 % 2 ^ 11 := by
  simp only [exponentField, UnpackedFloat.unpackExponent, BitVec.toNat_cast,
    BitVec.extractLsb_toNat, Nat.shiftRight_eq_div_pow, Nat.reduceAdd, Nat.reduceSub]

theorem toNat_mantissaField (b : BitVec 64) : (mantissaField b).toNat = b.toNat % 2 ^ 52 := by
  simp only [mantissaField, UnpackedFloat.unpackMantissa, BitVec.toNat_cast,
    BitVec.extractLsb_toNat, Nat.shiftRight_eq_div_pow]
  change b.toNat / 2 ^ 0 % 2 ^ 52 = _
  omega

theorem eq_of_fields (hs : signBit b = signBit c) (he : exponentField b = exponentField c)
    (hm : mantissaField b = mantissaField c) : b = c := by
  apply BitVec.eq_of_toNat_eq
  have hsn := congrArg BitVec.toNat hs
  have hen := congrArg BitVec.toNat he
  have hmn := congrArg BitVec.toNat hm
  rw [toNat_signBit, toNat_signBit] at hsn
  rw [toNat_exponentField, toNat_exponentField] at hen
  rw [toNat_mantissaField, toNat_mantissaField] at hmn
  omega

theorem one_append_mantissa (m : BitVec 52) : (1#1 ++ m).toNat = 2 ^ 52 + m.toNat := by
  rw [BitVec.toNat_append, Nat.shiftLeft_eq, Nat.or_comm]
  exact (Nat.or_two_pow_eq_add_of_lt m.isLt).trans (Nat.add_comm _ _)

theorem ofBitVec_inj {v w : BitVec 1}
    (h : UnpackedFloat.Sign.ofBitVec v = UnpackedFloat.Sign.ofBitVec w) : v = w := by
  rcases BitVec.eq_zero_or_eq_one v with rfl | rfl <;>
    rcases BitVec.eq_zero_or_eq_one w with rfl | rfl <;> first | rfl | cases h

theorem isNegative_eq (x : Float) :
    Decimal.isNegative x = decide (signBit x.toModel.toBits.toBitVec = 1#1) := by
  have hs := toNat_signBit x.toModel.toBits.toBitVec
  change decide (x.toModel.toBits.toBitVec.toNat >>> 63 = 1) = _
  rw [Nat.shiftRight_eq_div_pow, ← hs, decide_eq_decide]
  constructor
  · intro h
    exact BitVec.eq_of_toNat_eq h
  · intro h
    rw [h]
    rfl

end Bits

section Fields

def signOf : UnpackedFloat → UnpackedFloat.Sign
  | .infinity s | .zero s | .finite s _ _ _ => s
  | .notANumber => .positive

def exponentOf : UnpackedFloat → Nat
  | .infinity _ | .notANumber => 2047
  | .zero _ => 0
  | .finite _ m e _ => if m < 2 ^ 52 then 0 else (e + 1075).toNat

def mantissaOf : UnpackedFloat → Nat
  | .finite _ m _ _ => m % 2 ^ 52
  | _ => 0

variable {b c : BitVec 64}

theorem fields_unpack (hn : (UnpackedFloat.unpack .binary64 b).isNaN = false) :
    UnpackedFloat.Sign.ofBitVec (signBit b) = signOf (UnpackedFloat.unpack .binary64 b) ∧
      (exponentField b).toNat = exponentOf (UnpackedFloat.unpack .binary64 b) ∧
      (mantissaField b).toNat = mantissaOf (UnpackedFloat.unpack .binary64 b) := by
  have hm := (mantissaField b).isLt
  have hb : Format.binary64.exponentBias = 1023 := rfl
  delta UnpackedFloat.unpack at hn ⊢
  dsimp only at hn ⊢
  by_cases he : exponentField b = -1#11
  · rw [if_pos he] at hn ⊢
    by_cases hz : mantissaField b = 0#52
    · rw [if_pos hz]
      exact ⟨rfl, congrArg BitVec.toNat he, congrArg BitVec.toNat hz⟩
    · rw [if_neg hz] at hn
      cases hn
  · rw [if_neg he]
    by_cases hs : exponentField b = 0#11
    · rw [if_pos hs]
      by_cases hz : mantissaField b = 0#52
      · rw [dif_pos hz]
        exact ⟨rfl, congrArg BitVec.toNat hs, congrArg BitVec.toNat hz⟩
      · rw [dif_neg hz]
        refine ⟨rfl, ?_, ?_⟩
        · rw [exponentOf, if_pos hm]
          exact congrArg BitVec.toNat hs
        · rw [mantissaOf, Nat.mod_eq_of_lt hm]
    · rw [if_neg hs]
      refine ⟨rfl, ?_, ?_⟩
      · rw [exponentOf, one_append_mantissa, if_neg (by omega), hb]
        change _ = (((exponentField b).toNat : Int) - ((1023 : Nat) + (52 : Nat)) + 1075).toNat
        omega
      · rw [mantissaOf, one_append_mantissa, Nat.add_mod_left, Nat.mod_eq_of_lt hm]

end Fields

theorem unpack_inj {x y : Float} (hx : x.isNaN = false) (h : x.toModel.unpack = y.toModel.unpack) :
    x = y := by
  have hy : y.isNaN = false := by
    change y.toModel.unpack.isNaN = false
    rw [← h]
    exact hx
  obtain ⟨hsx, hex, hmx⟩ := fields_unpack (b := x.toModel.toBits.toBitVec) hx
  obtain ⟨hsy, hey, hmy⟩ := fields_unpack (b := y.toModel.toBits.toBitVec) hy
  have hbits : x.toModel.toBits.toBitVec = y.toModel.toBits.toBitVec := by
    change UnpackedFloat.unpack .binary64 _ = UnpackedFloat.unpack .binary64 _ at h
    rw [h] at hsx hex hmx
    exact eq_of_fields (ofBitVec_inj (hsx.trans hsy.symm))
      (BitVec.eq_of_toNat_eq (hex.trans hey.symm)) (BitVec.eq_of_toNat_eq (hmx.trans hmy.symm))
  cases x with
  | ofModel x =>
      cases y with
      | ofModel y =>
          cases x
          cases y
          simpa using UInt64.toBitVec_inj.mp hbits

theorem eq_of_rank_eq {u v : UnpackedFloat} (hu : u.isNaN = false) (hv : v.isNaN = false)
    (hr : rank u = rank v) (hs : signOf u = signOf v) : u = v := by
  cases u with
  | notANumber => cases hu
  | infinity s =>
      cases s <;> rcases v with (_ | _) | _ | _ | ⟨_ | _, _, _, _⟩ <;> simp_all [rank]
  | zero s =>
      rcases v with (_ | _) | _ | _ | ⟨_ | _, _, _, _⟩ <;> simp_all [rank, signOf]
  | finite s m e hm =>
      rcases v with (_ | _) | _ | _ | ⟨s', n, f, hn⟩
      · cases s <;> simp [rank] at hr
      · cases s <;> simp [rank] at hr
      · cases hv
      · cases s <;> simp [rank] at hr
      · obtain rfl : s = s' := hs
        have hmn : m = n ∧ e = f := by
          cases s <;> simp only [rank, List.cons.injEq] at hr <;> omega
        obtain ⟨rfl, rfl⟩ := hmn
        rfl

theorem isNegative_iff {x : Float} (hx : x.isNaN = false) :
    Decimal.isNegative x = true ↔ signOf x.toModel.unpack = .negative := by
  obtain ⟨hs, -, -⟩ := fields_unpack (b := x.toModel.toBits.toBitVec) hx
  change _ = signOf x.toModel.unpack at hs
  rw [isNegative_eq, ← hs, decide_eq_true_eq]
  rcases BitVec.eq_zero_or_eq_one (signBit x.toModel.toBits.toBitVec) with h | h
  · rw [h]
    exact ⟨fun he => absurd he (by decide), fun he => by cases he⟩
  · rw [h]
    exact ⟨fun _ => rfl, fun _ => rfl⟩

theorem eq_of_key_eq {x y : Float} (hx : x.isNaN = false) (hy : y.isNaN = false)
    (hk : key x = key y) (hs : Decimal.isNegative x = Decimal.isNegative y) : x = y := by
  refine unpack_inj hx (eq_of_rank_eq hx hy hk ?_)
  have h : signOf x.toModel.unpack = .negative ↔ signOf y.toModel.unpack = .negative := by
    rw [← isNegative_iff hx, ← isNegative_iff hy, hs]
  cases hsx : signOf x.toModel.unpack with
  | negative => exact (h.mp hsx).symm
  | positive =>
      cases hsy : signOf y.toModel.unpack with
      | negative => rw [hsx, hsy] at h; cases h.mpr rfl
      | positive => rfl

theorem beq_iff {x y : Float} (hx : x.isNaN = false) (hy : y.isNaN = false) :
    (x == y) = true ↔ compare (key x) (key y) = .eq := by
  have hc : x.toModel.unpack.compare y.toModel.unpack = some (compare (key x) (key y)) :=
    compare_eq_compare_rank hx hy
  change (x.toModel.unpack.compare y.toModel.unpack == some .eq) = true ↔ _
  rw [hc]
  simp

def totalOrder : Float → Float → Ordering :=
  compareLex (compareOn key) (compareOn fun x => !Decimal.isNegative x)

instance : TransCmp totalOrder := by
  unfold totalOrder
  infer_instance

theorem totalLe_eq {x y : Float} (hx : x.isNaN = false) (hy : y.isNaN = false) :
    Aggregate.totalLe x y = (totalOrder x y).isLE := by
  have hlt := lt_iff hx hy
  have hbeq := beq_iff hx hy
  rw [Aggregate.totalLe, totalOrder, compareLex, compareOn, compareOn]
  cases hc : compare (key x) (key y) with
  | lt => simp [hlt.mpr hc]
  | gt =>
      have hl : ¬x < y := by simp [hlt, hc]
      have he : (x == y) = false := by simp [← Bool.not_eq_true, hbeq, hc]
      simp [hl, he]
  | eq =>
      have hl : ¬x < y := by simp [hlt, hc]
      have he : (x == y) = true := hbeq.mpr hc
      cases Decimal.isNegative x <;> cases Decimal.isNegative y <;> simp [hl, he] <;> decide

theorem eq_of_totalOrder_eq {x y : Float} (hx : x.isNaN = false) (hy : y.isNaN = false)
    (h : totalOrder x y = .eq) : x = y := by
  obtain ⟨hk, hs⟩ := Ordering.then_eq_eq.mp h
  have hs := LawfulEqOrd.eq_of_compare hs
  exact eq_of_key_eq hx hy (LawfulEqOrd.eq_of_compare hk) (by simpa using hs)

theorem sorted_eq_mergeSort {xs : List Float} (h : ∀ x ∈ xs, x.isNaN = false) :
    Aggregate.sorted xs = xs.mergeSort fun x y => (totalOrder x y).isLE := by
  have hm := List.map_mergeSort (f := id) (l := xs) (r := Aggregate.totalLe)
    (s := fun x y => (totalOrder x y).isLE) fun x hx y hy => totalLe_eq (h x hx) (h y hy)
  rwa [List.map_id, List.map_id] at hm

theorem pairwise_totalOrder (xs : List Float) :
    (xs.mergeSort fun x y => (totalOrder x y).isLE).Pairwise fun x y => (totalOrder x y).isLE := by
  apply List.pairwise_mergeSort
  · exact fun x y z hxy hyz => TransCmp.isLE_trans hxy hyz
  · intro x y
    have hs : totalOrder y x = (totalOrder x y).swap := OrientedCmp.eq_swap
    rw [hs]
    cases totalOrder x y <;> rfl

/-- Sorting forgets the order in which the numbers came. -/
theorem sorted_eq_of_perm {xs ys : List Float} (h : xs.Perm ys) (hx : ∀ x ∈ xs, x.isNaN = false) :
    Aggregate.sorted xs = Aggregate.sorted ys := by
  have hy : ∀ y ∈ ys, y.isNaN = false := fun y hm => hx y (h.mem_iff.mpr hm)
  rw [sorted_eq_mergeSort hx, sorted_eq_mergeSort hy]
  refine List.Perm.eq_of_pairwise ?_ (pairwise_totalOrder xs) (pairwise_totalOrder ys)
    ((List.mergeSort_perm ..).trans (h.trans (List.mergeSort_perm ..).symm))
  intro a b ha hb hab hba
  exact eq_of_totalOrder_eq (hx a (List.mem_mergeSort.mp ha)) (hy b (List.mem_mergeSort.mp hb))
    (OrientedCmp.isLE_antisymm hab hba)

end TableQuery.FloatOrder
