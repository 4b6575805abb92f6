import Mathlib.Data.Prod.Lex
import TableQuery.Proofs.Calendar.DayCount
import TableQuery.Proofs.Decimal.DigitOrder
import TableQuery.Proofs.Text.ByteOrder

namespace TableQuery.Calendar

open Decimal (magnitudeOf)

section Digits

variable {cs ds : List Char} {width m n : Nat}

theorem Digits.append_lt_append_iff (hm : Digits width m cs) (hn : Digits width n ds)
    {xs ys : List Char} :
    cs ++ xs < ds ++ ys ↔ m < n ∨ m = n ∧ xs < ys := by
  rw [Decimal.append_lt_append_iff (hm.length.trans hn.length.symm) hm.isDigit hn.isDigit,
    hm.magnitude, hn.magnitude]

theorem Digits.append_cons_lt_iff (hm : Digits width m cs) (hn : Digits width n ds) {mark : Char}
    {xs ys : List Char} :
    cs ++ mark :: xs < ds ++ mark :: ys ↔ m < n ∨ m = n ∧ xs < ys := by
  rw [hm.append_lt_append_iff hn, List.cons_lt_cons_iff]
  simp

end Digits

section Fractions

theorem fractionText_cases {n : Nat} (h : n < 1000000000) :
    n = 0 ∧ Instant.fractionText n = "" ∨
      0 < n ∧ ∃ cs, (Instant.fractionText n).toList = '.' :: cs ∧
        (∀ c ∈ cs, c.isDigit = true) ∧ (cs.length = 3 ∨ cs.length = 6 ∨ cs.length = 9) ∧
        magnitudeOf cs * 10 ^ (9 - cs.length) = n := by
  have hpart {width q : Nat} (hw : width = 3 ∨ width = 6 ∨ width = 9) (hq : q < 10 ^ width)
      (hn : q * 10 ^ (9 - width) = n) : ∃ cs, ("." ++ padLeft width q).toList = '.' :: cs ∧
        (∀ c ∈ cs, c.isDigit = true) ∧ (cs.length = 3 ∨ cs.length = 6 ∨ cs.length = 9) ∧
        magnitudeOf cs * 10 ^ (9 - cs.length) = n := by
    have hdigits := digits_padLeft (by omega) hq
    refine ⟨(padLeft width q).toList, by simp, hdigits.isDigit, ?_, ?_⟩
    · rwa [hdigits.length]
    · rw [hdigits.length, hdigits.magnitude, hn]
  unfold Instant.fractionText
  split
  · next h0 => exact .inl ⟨h0, rfl⟩
  · next h0 =>
      refine .inr ⟨Nat.pos_of_ne_zero h0, ?_⟩
      split
      · exact hpart (by decide) (by omega) (by omega)
      · split
        · exact hpart (by decide) (by omega) (by omega)
        · exact hpart (by decide) (by omega) (by omega)

theorem fractionText_lt {m n : Nat} (hm : m < 1000000000) (hn : n < 1000000000) (h : m < n)
    (xs ys : List Char) :
    (Instant.fractionText m).toList ++ '+' :: xs <
      (Instant.fractionText n).toList ++ '+' :: ys := by
  obtain ⟨rfl, -⟩ | ⟨-, ds, hds, hd, hdlength, hdvalue⟩ := fractionText_cases hn
  · cases h
  · rw [hds]
    obtain ⟨-, hzero⟩ | ⟨-, cs, hcs, hc, hclength, hcvalue⟩ := fractionText_cases hm
    · rw [hzero]
      exact List.cons_lt_cons_iff.mpr (.inl (by decide))
    · rw [hcs]
      refine List.cons_lt_cons_iff.mpr (.inr ⟨rfl, ?_⟩)
      have hc9 : cs.length ≤ 9 := by omega
      have hd9 : ds.length ≤ 9 := by omega
      exact Decimal.append_plus_lt hc hd hc9 hd9 (by rwa [hcvalue, hdvalue]) xs ys

theorem fractionText_lt_iff {m n : Nat} (hm : m < 1000000000) (hn : n < 1000000000)
    (xs : List Char) :
    (Instant.fractionText m).toList ++ '+' :: xs < (Instant.fractionText n).toList ++ '+' :: xs ↔
      m < n := by
  refine ⟨fun h => ?_, fun h => fractionText_lt hm hn h xs xs⟩
  rcases lt_trichotomy m n with hlt | rfl | hgt
  · exact hlt
  · exact absurd h (lt_irrefl _)
  · exact absurd h (lt_asymm (fractionText_lt hn hm hgt xs xs))

end Fractions

namespace Instant

variable {i j : Instant}

/-- The seconds since 1970-01-01, then the nanoseconds. A leap second follows its minute and comes
before the next. -/
def moment (i : Instant) : ℤ ×ₗ ℕ :=
  toLex (i.date.toDays * 86400 + i.time.second, i.time.nanosecond)

/-- By day, then by second, then by nanosecond. -/
theorem moment_lt_iff (hi : i.Shown) (hj : j.Shown) :
    i.moment < j.moment ↔ i.date.toDays < j.date.toDays ∨ i.date.toDays = j.date.toDays ∧
      (i.time.second < j.time.second ∨
        i.time.second = j.time.second ∧ i.time.nanosecond < j.time.nanosecond) := by
  have hsecond := hi.second_lt
  have hsecond' := hj.second_lt
  rw [moment, moment, Prod.Lex.toLex_lt_toLex]
  dsimp only
  omega

theorem clock_lt_iff (hi : i.Shown) (hj : j.Shown) :
    (i.time.second / 3600 < j.time.second / 3600 ∨ i.time.second / 3600 = j.time.second / 3600 ∧
      (i.time.second / 60 % 60 < j.time.second / 60 % 60 ∨
        i.time.second / 60 % 60 = j.time.second / 60 % 60 ∧
      (clockSecond i.time < clockSecond j.time ∨ clockSecond i.time = clockSecond j.time ∧
        i.time.nanosecond % 1000000000 < j.time.nanosecond % 1000000000))) ↔
      i.time.second < j.time.second ∨
        i.time.second = j.time.second ∧ i.time.nanosecond < j.time.nanosecond := by
  have hi := hi.nanosecond_lt
  have hj := hj.nanosecond_lt
  unfold clockSecond
  split <;> split <;> omega

/-- The characters of a text of RFC 3339 that names Greenwich: 19 of them down to the seconds, then
the fraction and the offset. -/
structure StampForm (text seconds fraction : List Char) : Prop where
  text_eq : text = seconds ++ (fraction ++ ['+', '0', '0', ':', '0', '0'])
  length_seconds : seconds.length = 19
  fraction_cases : fraction = [] ∨ ∃ cs, fraction = '.' :: cs ∧ (∀ c ∈ cs, c.isDigit = true) ∧
    (cs.length = 3 ∨ cs.length = 6 ∨ cs.length = 9)

theorem exists_stampForm (h : i.Shown) :
    ∃ seconds fraction, StampForm (stamp i).toList seconds fraction := by
  obtain ⟨hyear, hmonth, hday, hhour, hminute, hsecond⟩ := h.digits
  refine ⟨(padLeft 4 i.date.year.natAbs).toList ++ '-' :: ((padLeft 2 i.date.month).toList ++
    '-' :: ((padLeft 2 i.date.day).toList ++ 'T' ::
    ((padLeft 2 (i.time.second / 3600)).toList ++ ':' ::
    ((padLeft 2 (i.time.second / 60 % 60)).toList ++ ':' ::
    (padLeft 2 (clockSecond i.time)).toList)))),
    (fractionText (i.time.nanosecond % 1000000000)).toList, ?_, ?_, ?_⟩
  · rw [toList_stamp h]
    simp only [List.append_assoc, List.cons_append]
  · simp only [List.length_append, List.length_cons, hyear.length, hmonth.length, hday.length,
      hhour.length, hminute.length, hsecond.length]
  · obtain ⟨-, hnone⟩ | ⟨-, cs, hcs, hdigits, hlength, -⟩ :=
      fractionText_cases (Nat.mod_lt i.time.nanosecond (by decide : 0 < 1000000000))
    · exact .inl (by rw [hnone]; rfl)
    · exact .inr ⟨cs, hcs, hdigits, hlength⟩

theorem stamp_lt_stamp_iff (hi : i.Shown) (hj : j.Shown) :
    stamp i < stamp j ↔ i.moment < j.moment := by
  obtain ⟨hyear, hmonth, hday, hhour, hminute, hsecond⟩ := hi.digits
  obtain ⟨hyear', hmonth', hday', hhour', hminute', hsecond'⟩ := hj.digits
  have habs := hi.year_nonneg
  have habs' := hj.year_nonneg
  rw [String.lt_iff, toList_stamp hi, toList_stamp hj, hyear.append_cons_lt_iff hyear',
    hmonth.append_cons_lt_iff hmonth', hday.append_cons_lt_iff hday',
    hhour.append_cons_lt_iff hhour', hminute.append_cons_lt_iff hminute',
    hsecond.append_lt_append_iff hsecond',
    fractionText_lt_iff (Nat.mod_lt _ (by decide)) (Nat.mod_lt _ (by decide)), clock_lt_iff hi hj,
    moment_lt_iff hi hj, Date.toDays_lt_iff hi.date hj.date, Date.toDays_eq_iff hi.date hj.date]
  omega

end Instant
end TableQuery.Calendar
