import Mathlib.Algebra.Group.Nat.Defs
import TableQuery.Calendar.Instant
import TableQuery.Proofs.Decimal.IntegerTexts

namespace TableQuery.Calendar

theorem toList_padLeft (width n : Nat) :
    (padLeft width n).toList =
      List.replicate (width - (Nat.toDigits 10 n).length) '0' ++ Nat.toDigits 10 n := by
  rw [padLeft, String.toList_append, String.toList_ofList, Nat.toList_repr, ← String.length_toList,
    Nat.toList_repr]

theorem isDigit_of_mem_padLeft {width n : Nat} {c : Char} (h : c ∈ (padLeft width n).toList) :
    c.isDigit = true := by
  rw [toList_padLeft] at h
  exact (Decimal.whole_zeros_append _ n).isDigit c h

theorem length_padLeft {width n : Nat} (hw : 0 < width) (hn : n < 10 ^ width) :
    (padLeft width n).toList.length = width := by
  have hle := (Nat.length_toDigits_le_iff (by decide : 1 < 10) hw).mpr hn
  rw [toList_padLeft, List.length_append, List.length_replicate]
  omega

theorem magnitudeOf_padLeft (width n : Nat) : Decimal.magnitudeOf (padLeft width n).toList = n := by
  rw [Decimal.magnitudeOf_eq_ofDigitChars, toList_padLeft, Decimal.ofDigitChars_zeros_append]

/-- These characters are `width` digits, and their value is `n`. -/
structure Digits (width n : Nat) (cs : List Char) : Prop where
  length : cs.length = width
  isDigit : ∀ c ∈ cs, c.isDigit = true
  magnitude : Decimal.magnitudeOf cs = n

theorem digits_padLeft {width n : Nat} (hw : 0 < width) (hn : n < 10 ^ width) :
    Digits width n (padLeft width n).toList where
  length := length_padLeft hw hn
  isDigit _ hc := isDigit_of_mem_padLeft hc
  magnitude := magnitudeOf_padLeft width n

variable {n width : Nat} {cs : List Char}

theorem scanTwo_append (h : Digits 2 n cs) (rest : List Char) :
    scanTwo (cs ++ rest) = .ok (n, rest) := by
  obtain ⟨c, d, rfl⟩ : ∃ c d, cs = [c, d] := by
    match cs, h.length with
    | [c, d], _ => exact ⟨c, d, rfl⟩
  have hc := h.isDigit c (by simp)
  have hd := h.isDigit d (by simp)
  simp [scanTwo, hc, hd, h.magnitude]

theorem scanTwo_century (h : Digits 4 n cs) (rest : List Char) :
    ∃ century yearOfCentury tail, scanTwo (cs ++ rest) = .ok (century, tail) ∧
      scanTwo tail = .ok (yearOfCentury, rest) ∧ century * 100 + yearOfCentury = n := by
  obtain ⟨a, b, c, d, rfl⟩ : ∃ a b c d, cs = [a, b, c, d] := by
    match cs, h.length with
    | [a, b, c, d], _ => exact ⟨a, b, c, d, rfl⟩
  have ha := h.isDigit a (by simp)
  have hb := h.isDigit b (by simp)
  have hc := h.isDigit c (by simp)
  have hd := h.isDigit d (by simp)
  refine ⟨Decimal.magnitudeOf [a, b], Decimal.magnitudeOf [c, d], c :: d :: rest, ?_, ?_, ?_⟩
  · simp [scanTwo, ha, hb]
  · simp [scanTwo, hc, hd]
  · rw [← h.magnitude]
    simp only [Decimal.magnitudeOf, List.foldl_cons, List.foldl_nil]
    omega

theorem takeWhile_isDigit_append (h : Digits width n cs) {mark : Char} (hm : mark.isDigit = false)
    (rest : List Char) (k : Nat) :
    ((cs ++ mark :: rest).take (width + k)).takeWhile Char.isDigit = cs := by
  rw [← h.length, List.take_length_add_append, List.takeWhile_append_of_pos h.isDigit]
  cases k with
  | zero => simp
  | succ k => simp [hm]

theorem int64_contains {n : Nat} (h : n < 10 ^ 9) :
    Decimal.IntegerRange.int64.contains n = true := by
  have hbound : (n : Int) ≤ Int64.maxValue.toInt := by
    have hmax : Int64.maxValue.toInt = 9223372036854775807 := by decide
    omega
  simp [Decimal.IntegerRange.contains, Decimal.IntegerRange.int64, hbound]

theorem scanNumber_of_takeWhile (h : Digits width n cs) (hw : 0 < width) {most : Nat}
    {rest : List Char} (hdigits : ((cs ++ rest).take most).takeWhile Char.isDigit = cs)
    (hrange : Decimal.IntegerRange.int64.contains n = true) :
    scanNumber most (cs ++ rest) = .ok (n, rest) := by
  obtain ⟨c, tail, rfl⟩ := List.exists_cons_of_length_pos (h.length ▸ hw)
  have hc : c.isDigit = true := h.isDigit c List.mem_cons_self
  simp only [List.cons_append] at hdigits ⊢
  simp [scanNumber, hc, hdigits, h.magnitude, hrange]

theorem scanNumber_append (h : Digits width n cs) (hw : 0 < width) (hw' : width ≤ 9)
    (hn : n < 10 ^ width) {mark : Char} (hm : mark.isDigit = false) (rest : List Char) :
    scanNumber 9 (cs ++ mark :: rest) = .ok (n, mark :: rest) := by
  have hdigits : ((cs ++ mark :: rest).take 9).takeWhile Char.isDigit = cs := by
    obtain ⟨k, hk⟩ := Nat.exists_eq_add_of_le hw'
    rw [hk]
    exact takeWhile_isDigit_append h hm rest k
  have hrange : n < 10 ^ 9 := Nat.lt_of_lt_of_le hn (Nat.pow_le_pow_right (by decide) hw')
  exact scanNumber_of_takeWhile h hw hdigits (int64_contains hrange)

theorem scanNanoseconds_append (h : Digits width n cs) (hw : 0 < width) (hw' : width ≤ 9)
    (hn : n < 10 ^ width) {mark : Char} (hm : mark.isDigit = false) (rest : List Char) :
    scanNanoseconds (cs ++ mark :: rest) = .ok (n * 10 ^ (9 - width), mark :: rest) := by
  have hread : (cs ++ mark :: rest).length - (mark :: rest).length = width := by
    rw [List.length_append, h.length]
    omega
  rw [scanNanoseconds, scanNumber_append h hw hw' hn hm rest]
  simp only [bind, Except.bind, hread, Nat.pow_eq, hm, List.dropWhile_cons_of_neg,
    Bool.false_eq_true, not_false_eq_true]

end TableQuery.Calendar
