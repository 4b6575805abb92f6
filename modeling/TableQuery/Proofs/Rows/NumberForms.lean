import TableQuery.Proofs.Rows.FloatValues

namespace TableQuery

namespace Cell

theorem canonical_ofNumber (x : Float) : canonical (ofNumber x) = ofNumber x := by
  unfold ofNumber
  split
  · rfl
  · next hw =>
      unfold Json.ofFloat
      split
      · next hf =>
          change ofNumber x = _
          rw [ofNumber, hw, Json.ofFloat, dif_pos hf]
      · rfl

theorem canonical_canonical (j : Json) : canonical (canonical j) = canonical j := by
  cases j with
  | float x => exact canonical_ofNumber x.val
  | _ => rfl

/-- Read as integers, or read as floats. -/
def SameForm : Json → Json → Prop
  | .int _, .int _ => True
  | .float _, .float _ => True
  | _, _ => False

section Numbers

variable {a b j : Json} {n : Int} {v : ℚ}

theorem value?_canonical (hj : j.isNumber = true) : value? (canonical j) = value? j := by
  cases j with
  | int n => rfl
  | float x => exact value?_ofNumber x.finite
  | _ => cases hj

theorem value?_of_integer? {x : FiniteFloat} (h : Decimal.integer? x.val = some n) :
    value? (.float x) = some (n : ℚ) :=
  congrArg some (Decimal.integer?_eq_some_iff.mp h).2

theorem canonical_eq_int (hj : j.isNumber = true) (hv : value? j = some (n : ℚ))
    (hn : n.natAbs < exactBound) : canonical j = .int n := by
  cases j with
  | int m =>
      obtain rfl : m = n := Int.cast_injective (Option.some.inj hv)
      rfl
  | float x => exact ofNumber_eq_int_iff.mpr ⟨⟨x.finite, Option.some.inj hv⟩, hn⟩
  | _ => cases hj

theorem canonical_float_eq_int_iff {x : FiniteFloat} (hv : value? (.float x) = some (n : ℚ)) :
    canonical (.float x) = .int n ↔ |(n : ℚ)| < 2 ^ 53 := by
  have hbound : n.natAbs < exactBound ↔ |(n : ℚ)| < 2 ^ 53 := by
    rw [← Int.cast_abs, ← Nat.cast_natAbs]
    exact_mod_cast Iff.rfl
  rw [← hbound]
  exact ofNumber_eq_int_iff.trans (and_iff_right ⟨x.finite, Option.some.inj hv⟩)

theorem canonical_float_eq {x y : FiniteFloat} (h : value? (.float x) = value? (.float y)) :
    canonical (.float x) = canonical (.float y) := by
  have hv : Decimal.valueOf x.val = Decimal.valueOf y.val := Option.some.inj h
  -- The two zeros leave as the integer, and any other number has one float.
  by_cases hz : Decimal.valueOf x.val = 0
  · have hzero : value? (.float x) = some ((0 : Int) : ℚ) := congrArg some (hz.trans Int.cast_zero.symm)
    rw [canonical_eq_int rfl hzero (by decide), canonical_eq_int rfl (h ▸ hzero) (by decide)]
  · exact congrArg ofNumber (Decimal.eq_of_valueOf_eq x.finite y.finite hv hz)

theorem canonical_eq_iff (ha : a.isNumber = true) (hb : b.isNumber = true)
    (h : value? a = value? b) (hv : value? a = some v) :
    canonical a = canonical b ↔ SameForm a b ∨ |v| < 2 ^ 53 := by
  cases a with
  | int m =>
      obtain rfl : (m : ℚ) = v := Option.some.inj hv
      cases b with
      | int n =>
          obtain rfl : m = n := Int.cast_injective (Option.some.inj h)
          exact iff_of_true rfl (.inl trivial)
      | float y =>
          have hform : ¬SameForm (.int m) (.float y) := id
          rw [or_iff_right hform, ← canonical_float_eq_int_iff h.symm]
          exact eq_comm
      | _ => cases hb
  | float x =>
      cases b with
      | int n =>
          obtain rfl : (n : ℚ) = v := Option.some.inj (h.symm.trans hv)
          have hform : ¬SameForm (.float x) (.int n) := id
          rw [or_iff_right hform, ← canonical_float_eq_int_iff h]
          rfl
      | float y => exact iff_of_true (canonical_float_eq h) (.inl trivial)
      | _ => cases hb
  | _ => cases ha

end Numbers

end Cell

/-- Two forms of one number leave alike if both are integers or both are floats, and otherwise below
`2 ^ 53` but not above it. Whatever leaves denotes the same number and leaves unchanged again. -/
theorem number_forms_meet {a b : Json} {v : ℚ} (ha : a.isNumber = true) (hb : b.isNumber = true)
    (hv : Cell.value? a = some v) (h : Cell.value? b = some v) :
    (Cell.SameForm a b ∨ |v| < 2 ^ 53 → Cell.canonical a = Cell.canonical b) ∧
      (¬Cell.SameForm a b → 2 ^ 53 < |v| → Cell.canonical a ≠ Cell.canonical b) ∧
      Cell.value? (Cell.canonical a) = some v ∧
      ∀ j, Cell.canonical (Cell.canonical j) = Cell.canonical j := by
  have hiff := Cell.canonical_eq_iff ha hb (hv.trans h.symm) hv
  refine ⟨hiff.mpr, fun hform hlt he => ?_, (Cell.value?_canonical ha).trans hv,
    Cell.canonical_canonical⟩
  exact (hiff.mp he).elim hform hlt.not_gt

def floatOfTwenty : FiniteFloat := ⟨20, by decide +kernel⟩

theorem twenty_forms_meet :
    Cell.value? (.int 20) = some 20 ∧ Cell.value? (.float floatOfTwenty) = some 20 ∧
      Cell.canonical (.int 20) = Cell.canonical (.float floatOfTwenty) := by
  have hv : Cell.value? (.float floatOfTwenty) = some ((20 : Int) : ℚ) :=
    Cell.value?_of_integer? (by decide +kernel)
  have hmeet := number_forms_meet (a := .int 20) rfl rfl rfl hv
  exact ⟨rfl, hv, hmeet.1 (.inr (by norm_num))⟩

def largeFloat : FiniteFloat := ⟨1152921504606846976, by decide +kernel⟩

theorem large_forms_differ :
    Cell.value? (.int 1152921504606846976) = Cell.value? (.float largeFloat) ∧
      Cell.canonical (.int 1152921504606846976) ≠ Cell.canonical (.float largeFloat) := by
  have hv : Cell.value? (.float largeFloat) = some ((1152921504606846976 : Int) : ℚ) :=
    Cell.value?_of_integer? (by decide +kernel)
  refine ⟨hv.symm, fun h => ?_⟩
  have hlt := (Cell.canonical_float_eq_int_iff hv).mp h.symm
  norm_num at hlt

end TableQuery
