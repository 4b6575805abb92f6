import Mathlib.Data.Rat.Init
import Mathlib.Algebra.Field.Rat
import TableQuery.Rows.Cell

namespace TableQuery

namespace Decimal

def Parts.value (p : Parts) : ℚ :=
  magnitudeOf (p.whole ++ p.fraction) * 10 ^ (p.exponent - p.fraction.length)

def Binary.value (b : Binary) : ℚ := b.significand * 2 ^ b.exponent

/-- The number that a signed numeral denotes. -/
def value? (text : List Char) : Option ℚ :=
  match text with
  | '+' :: rest => (readParts rest).map Parts.value
  | '-' :: rest => (readParts rest).map fun p => -p.value
  | rest => (readParts rest).map Parts.value

theorem value?_unsigned {text : List Char} (hplus : ∀ rest, text = '+' :: rest → False)
    (hminus : ∀ rest, text = '-' :: rest → False) :
    value? text = (readParts text).map Parts.value := by
  unfold value?
  split
  · next rest => exact (hplus rest rfl).elim
  · next rest => exact (hminus rest rfl).elim
  · rfl

/-- What is no numeral is one of the words, and reads as not finite. -/
theorem isSome_readParts {text : List Char} {x : Float} (h : readUnsigned text = some x) :
    (readParts text).isSome ∨ x.isFinite = false ∧ (-x).isFinite = false := by
  unfold readUnsigned at h
  split at h
  · obtain rfl := Option.some.inj h
    exact .inr ⟨rfl, rfl⟩
  · obtain rfl := Option.some.inj h
    exact .inr ⟨rfl, rfl⟩
  · obtain rfl := Option.some.inj h
    exact .inr ⟨rfl, rfl⟩
  · obtain ⟨p, hp, -⟩ := Option.map_eq_some_iff.mp h
    exact .inl (by rw [hp]; rfl)

theorem isSome_value? {text : List Char} {x : Float} (h : readFloat text = some x)
    (hf : x.isFinite = true) : (value? text).isSome := by
  have hparts {rest : List Char} {y : Float} (hy : readUnsigned rest = some y)
      (hn : ¬(y.isFinite = false ∧ (-y).isFinite = false)) : (readParts rest).isSome :=
    (isSome_readParts hy).resolve_right hn
  unfold readFloat at h
  split at h
  · change ((readParts _).map _).isSome = true
    rw [Option.isSome_map]
    exact hparts h (by simp [hf])
  · obtain ⟨y, hy, rfl⟩ := Option.map_eq_some_iff.mp h
    change ((readParts _).map _).isSome = true
    rw [Option.isSome_map]
    exact hparts hy (by simp [hf])
  · next hplus hminus =>
      rw [value?_unsigned hplus hminus, Option.isSome_map]
      exact hparts h (by simp [hf])

end Decimal

namespace Cell

def value? : Json → Option ℚ
  | .int n => some n
  | .float x =>
      some ((if Decimal.isNegative x.val then -1 else 1) * (Decimal.Binary.ofFloat x.val).value)
  | .str s => Decimal.value? (Text.trimChars s.toList)
  | _ => none

theorem isSome_value? {j : Json} (h : (number? j).isSome) : (value? j).isSome := by
  cases j with
  | int n => rfl
  | float x => rfl
  | str s =>
      obtain ⟨x, hx⟩ := Option.isSome_iff_exists.mp h
      obtain ⟨hr, hf⟩ := Option.filter_eq_some_iff.mp hx
      exact Decimal.isSome_value? hr hf
  | _ => cases h

def SameNumber (a b : Json) : Prop :=
  (a.isNull = true ∧ b.isNull = true) ∨ ∃ v, value? a = some v ∧ value? b = some v

section SameNumber

variable {a b c : Json}

theorem value?_of_isNull (h : a.isNull = true) : value? a = none := by
  cases a with
  | null => rfl
  | _ => cases h

theorem SameNumber.symm : SameNumber a b → SameNumber b a
  | .inl ⟨ha, hb⟩ => .inl ⟨hb, ha⟩
  | .inr ⟨v, ha, hb⟩ => .inr ⟨v, hb, ha⟩

theorem SameNumber.trans (hab : SameNumber a b) (hbc : SameNumber b c) : SameNumber a c := by
  rcases hab with ⟨ha, hb⟩ | ⟨v, ha, hb⟩ <;> rcases hbc with ⟨hb', hc⟩ | ⟨w, hb', hc⟩
  · exact .inl ⟨ha, hc⟩
  · simp [value?_of_isNull hb] at hb'
  · simp [value?_of_isNull hb'] at hb
  · obtain rfl : v = w := Option.some.inj (hb.symm.trans hb')
    exact .inr ⟨v, ha, hc⟩

theorem sameNumber_iff (h : (number? a).isSome) : SameNumber a b ↔ value? a = value? b := by
  obtain ⟨v, hv⟩ := Option.isSome_iff_exists.mp (isSome_value? h)
  constructor
  · rintro (⟨ha, -⟩ | ⟨w, ha, hb⟩)
    · simp [value?_of_isNull ha] at hv
    · rw [ha, hb]
  · intro he
    exact .inr ⟨v, hv, he ▸ hv⟩

end SameNumber

end Cell
end TableQuery
