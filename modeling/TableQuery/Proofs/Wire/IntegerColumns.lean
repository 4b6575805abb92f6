import Mathlib.Algebra.Group.Int.Defs
import TableQuery.Proofs.Decimal.IntegerTexts
import TableQuery.Proofs.Text.ReadBytes
import TableQuery.Wire.MySql

namespace TableQuery.Wire.MySql

open Decimal (Denotes IntegerRange)

/-- What eight bytes can hold, with a sign or without one. -/
def InRange (n : Int) : Prop := -2 ^ 63 ≤ n ∧ n < 2 ^ 64

instance (n : Int) : Decidable (InRange n) := inferInstanceAs (Decidable (_ ∧ _))

def Writes (raw : List UInt8) (n : Int) : Prop := ∃ s, raw = Text.bytes s ∧ Denotes s.toList n

section Reading

variable {text : List Char} {m n : Int}

theorem read_int64_iff : IntegerRange.int64.read text = .ok n ↔
    Denotes text n ∧ -2 ^ 63 ≤ n ∧ n < 2 ^ 63 := by
  have hleast : IntegerRange.int64.least = -9223372036854775808 := by decide
  have hgreatest : IntegerRange.int64.greatest = 9223372036854775807 := by decide
  rw [IntegerRange.read_eq_ok_iff, hleast, hgreatest]
  refine and_congr_right fun _ => ?_
  omega

theorem read_uint64_iff : IntegerRange.uint64.read text = .ok n ↔
    Denotes text n ∧ 0 ≤ n ∧ n < 2 ^ 64 ∧ text.head? ≠ some '-' := by
  have hleast : IntegerRange.uint64.least = 0 := rfl
  have hgreatest : IntegerRange.uint64.greatest = 18446744073709551615 := by decide
  rw [IntegerRange.read_eq_ok_iff, hleast, hgreatest]
  refine and_congr_right fun _ => ?_
  constructor
  · rintro ⟨hlow, hhigh, hsign⟩
    exact ⟨by omega, by omega, hsign rfl⟩
  · rintro ⟨hlow, hhigh, hsign⟩
    exact ⟨by omega, by omega, fun _ => hsign⟩

/-- Either range reads the integer that the text denotes, and an integer of `InRange` is in one of
them. -/
theorem readInteger?_eq_some_iff : readInteger? text = some n ↔ InRange n ∧ Denotes text n := by
  have hread {m : Int} (h : readInteger? text = some m) (hrange : InRange m)
      (hdenotes : Denotes text m) : readInteger? text = some n ↔ InRange n ∧ Denotes text n := by
    rw [h, Option.some.injEq]
    constructor
    · rintro rfl
      exact ⟨hrange, hdenotes⟩
    · exact fun hn => hdenotes.unique hn.2
  cases hs : IntegerRange.int64.read text with
  | ok m =>
      obtain ⟨hdenotes, hlow, hhigh⟩ := read_int64_iff.mp hs
      exact hread (by rw [readInteger?, hs]; rfl) ⟨hlow, by omega⟩ hdenotes
  | error e =>
      cases hu : IntegerRange.uint64.read text with
      | ok m =>
          obtain ⟨hdenotes, hlow, hhigh, -⟩ := read_uint64_iff.mp hu
          exact hread (by rw [readInteger?, hs, hu]; rfl) ⟨by omega, hhigh⟩ hdenotes
      | error e' =>
          have hnone : readInteger? text = none := by rw [readInteger?, hs, hu]; rfl
          rw [hnone]
          refine iff_of_false nofun ?_
          -- An integer below 2 ^ 63 is in the first range, and every other one has no `-`.
          rintro ⟨⟨hlow, hhigh⟩, hdenotes⟩
          by_cases hsmall : n < 2 ^ 63
          · rw [read_int64_iff.mpr ⟨hdenotes, hlow, hsmall⟩] at hs
            cases hs
          · have hsign := hdenotes.head?_ne_minus (by omega)
            rw [read_uint64_iff.mpr ⟨hdenotes, by omega, hhigh, hsign⟩] at hu
            cases hu

example : readInteger? "+007".toList = some 7 := by decide

end Reading

section Columns

variable {raw : List UInt8} {n : Int}

theorem denotes_decodeLossy_iff :
    Denotes (Text.Utf8.decodeLossy raw).toList n ↔ Writes raw n := by
  constructor
  · intro h
    have hread := h.not_mem (c := '\uFFFD') (by decide) (by decide) (by decide)
    exact ⟨_, (Text.Utf8.bytes_decodeLossy hread).symm, h⟩
  · rintro ⟨s, rfl, h⟩
    rwa [Text.Utf8.decodeLossy_bytes]

theorem ofType_integer {type : String} (h : type ∈ integerTypes) :
    ColumnKind.ofType type = .integer := by
  rw [ColumnKind.ofType, if_pos (List.contains_iff_mem.mpr h)]

theorem cell?_integer_eq_int_iff :
    cell? .integer (.bytes raw) = some (.int n) ↔ InRange n ∧ Writes raw n := by
  rw [← denotes_decodeLossy_iff, ← readInteger?_eq_some_iff, cell?, textCell]
  cases readInteger? (Text.Utf8.decodeLossy raw).toList with
  | none => simp
  | some m => simp

theorem cell?_integer_of_other (h : ∀ n, InRange n → ¬Writes raw n) :
    cell? .integer (.bytes raw) = some (.str (Text.Utf8.decodeLossy raw)) := by
  have hnone : readInteger? (Text.Utf8.decodeLossy raw).toList = none := by
    refine Option.eq_none_iff_forall_ne_some.mpr fun n hn => ?_
    obtain ⟨hrange, hdenotes⟩ := readInteger?_eq_some_iff.mp hn
    exact h n hrange (denotes_decodeLossy_iff.mp hdenotes)
  rw [cell?, textCell, hnone]
  rfl

end Columns

/-- The integers of both ranges are read from their texts, with zeros in front or not, and no other
text is read as an integer: it is kept. -/
theorem integer_columns_exact {type : String} (h : type ∈ integerTypes) :
    let read (raw : List UInt8) : Option Json := cell? (.ofType type) (.bytes raw)
    (∀ n, InRange n → read (Text.bytes n.repr) = some (.int n)) ∧
      (∀ n, InRange n → 0 ≤ n → ∀ zeros,
        read (Text.bytes (String.ofList (List.replicate zeros '0') ++ n.repr)) = some (.int n)) ∧
      (∀ raw n, read raw = some (.int n) ↔ InRange n ∧ Writes raw n) ∧
      (∀ raw, (∀ n, InRange n → ¬Writes raw n) →
        read raw = some (.str (Text.Utf8.decodeLossy raw))) ∧
      ∀ s, Text.Utf8.decodeLossy (Text.bytes s) = s := by
  intro read
  have hread (raw : List UInt8) : read raw = cell? .integer (.bytes raw) := by
    rw [← ofType_integer h]
  simp only [hread]
  refine ⟨fun n hn => ?_, fun n hn hsign zeros => ?_, fun raw n => cell?_integer_eq_int_iff,
    fun raw => cell?_integer_of_other, Text.Utf8.decodeLossy_bytes⟩
  · exact cell?_integer_eq_int_iff.mpr ⟨hn, _, rfl, Decimal.denotes_repr n⟩
  · refine cell?_integer_eq_int_iff.mpr ⟨hn, _, rfl, ?_⟩
    rw [String.toList_append, String.toList_ofList]
    exact Decimal.denotes_zeros_repr zeros hsign

theorem longlong_read_exactly :
    let read (s : String) : Option Json := cell? (.ofType "LONGLONG") (.bytes (Text.bytes s))
    "LONGLONG" ∈ integerTypes ∧ read "0018446744073709551615" = some (.int 18446744073709551615) ∧
      read "-9223372036854775808" = some (.int (-9223372036854775808)) ∧
      read "18446744073709551616" = some (.str "18446744073709551616") := by
  intro read
  have htype : "LONGLONG" ∈ integerTypes := by decide
  obtain ⟨hplain, hzeros, -, hother, htext⟩ := integer_columns_exact htype
  have hgreatest : String.ofList (List.replicate 2 '0') ++ Int.repr 18446744073709551615 =
      "0018446744073709551615" := by decide
  have hleast : Int.repr (-9223372036854775808) = "-9223372036854775808" := by decide
  have hbeyond : Int.repr 18446744073709551616 = "18446744073709551616" := by decide
  refine ⟨htype, ?_, ?_, ?_⟩
  · rw [← hgreatest]
    exact hzeros 18446744073709551615 (by decide) (by decide) 2
  · rw [← hleast]
    exact hplain (-9223372036854775808) (by decide)
  · rw [← hbeyond]
    refine (hother _ ?_).trans (congrArg (some <| Json.str ·) (htext _))
    rintro n ⟨-, hn⟩ ⟨s, hs, hdenotes⟩
    rw [← htext s, ← hs, htext] at hdenotes
    have := hdenotes.unique (Decimal.denotes_repr 18446744073709551616)
    omega

end TableQuery.Wire.MySql
