import TableQuery.Proofs.Calendar.Digits
import Mathlib.Data.String.Basic
import Mathlib.Tactic.IntervalCases

namespace TableQuery.Calendar

theorem yearOfEra_eq {y t days : Int} (hy : 0 ≤ y) (hy' : y ≤ 399) (ht : 0 ≤ t) (ht' : t ≤ 365)
    (hleap : t = 365 → y % 4 = 3 ∧ (y % 100 ≠ 99 ∨ y = 399))
    (hdays : days = y * 365 + y / 4 - y / 100 + t) :
    (days - days / 1460 + days / 36524 - days / 146096) / 365 = y := by
  have hcenturies : days / 36524 - days / 146096 = y / 100 := by
    by_cases hlast : y = 399 ∧ t = 365
    · omega
    · have hshort : t = 365 → y % 100 ≤ 98 := by omega
      have hera : days / 146096 = 0 := by omega
      have hcentury : days / 36524 = y / 100 := by omega
      omega
  have hfour : days / 1460 =
      y / 4 + if t = 365 ∨ y % 4 = 3 ∧ 365 ≤ t + (y / 4 - y / 100) then 1 else 0 := by
    split <;> omega
  have hbounds : 365 * y ≤ days - days / 1460 + days / 36524 - days / 146096 ∧
      days - days / 1460 + days / 36524 - days / 146096 ≤ 365 * y + 364 := by
    split at hfour <;> omega
  omega

theorem monthFromMarch_eq {m d : Int} (hm : 0 ≤ m) (hm' : m ≤ 11) (hd : 1 ≤ d) (hd' : d ≤ 31)
    (hshort : m = 1 ∨ m = 3 ∨ m = 6 ∨ m = 8 → d ≤ 30) (hlast : m = 11 → d ≤ 29) :
    (5 * ((153 * m + 2) / 5 + d - 1) + 2) / 153 = m := by
  interval_cases m <;> omega

theorem dayOfYear_bounds {m d : Int} (hm : 0 ≤ m) (hm' : m ≤ 11) (hd : 1 ≤ d) (hd' : d ≤ 31)
    (hlast : m = 11 → d ≤ 29) :
    0 ≤ (153 * m + 2) / 5 + d - 1 ∧ (153 * m + 2) / 5 + d - 1 ≤ 365 ∧
      ((153 * m + 2) / 5 + d - 1 = 365 → m = 11 ∧ d = 29) := by
  interval_cases m <;> omega

namespace Date

/-- A day that its month has, whatever its year. -/
structure Valid (d : Date) : Prop where
  month_pos : 1 ≤ d.month
  month_le : d.month ≤ 12
  day_pos : 1 ≤ d.day
  day_le : d.day ≤ daysInMonth d.year d.month

variable {d : Date}

theorem ofParts?_of_valid (h : d.Valid) (hy : hasYear d.year = true) :
    ofParts? d.year d.month d.day = some d := by
  rw [ofParts?, hy, if_pos]
  simp [h.month_pos, h.month_le, h.day_pos, h.day_le]

theorem Valid.day_le_31 (h : d.Valid) : d.day ≤ 31 := by
  have hd := h.day_le
  unfold daysInMonth at hd
  split at hd
  · split at hd <;> omega
  all_goals omega

theorem Valid.day_le_30 (h : d.Valid)
    (hm : d.month = 4 ∨ d.month = 6 ∨ d.month = 9 ∨ d.month = 11) : d.day ≤ 30 := by
  have hd := h.day_le
  obtain hm | hm | hm | hm := hm <;> simpa [hm, daysInMonth] using hd

theorem Valid.day_le_29 (h : d.Valid) (hm : d.month = 2) : d.day ≤ 29 := by
  have hd := h.day_le
  simp only [hm, daysInMonth] at hd
  split at hd <;> omega

theorem isLeap_iff {year : Int} :
    isLeap year = true ↔ year % 4 = 0 ∧ (year % 100 ≠ 0 ∨ year % 400 = 0) := by
  simp only [isLeap, Bool.and_eq_true, Bool.or_eq_true, decide_eq_true_eq]

theorem Valid.leap_of_day (h : d.Valid) (hm : d.month = 2) (hd : d.day = 29) :
    isLeap d.year = true := by
  have hle := h.day_le
  simp only [hm, hd, daysInMonth] at hle
  split at hle
  · assumption
  · omega

/-- A valid day is found again from its distance to 1970-01-01. -/
theorem ofDays_toDays (h : d.Valid) : ofDays d.toDays = d := by
  obtain ⟨year, month, day⟩ := d
  have h31 : day ≤ 31 := h.day_le_31
  have h30 : month = 4 ∨ month = 6 ∨ month = 9 ∨ month = 11 → day ≤ 30 := h.day_le_30
  have h29 : month = 2 → day ≤ 29 := h.day_le_29
  have hleap : month = 2 → day = 29 → isLeap year = true := h.leap_of_day
  obtain ⟨hmonth, hmonth', hday, -⟩ := h
  simp only at hmonth hmonth' hday
  -- Counted from March: the year, the month, the day of the year and the day of the era.
  obtain ⟨y, hy⟩ : ∃ y : Int, y = if month ≤ 2 then year - 1 else year := ⟨_, rfl⟩
  obtain ⟨m, hm⟩ : ∃ m : Int, m = ((month : Int) + 9) % 12 := ⟨_, rfl⟩
  obtain ⟨t, ht⟩ : ∃ t : Int, t = (153 * m + 2) / 5 + day - 1 := ⟨_, rfl⟩
  obtain ⟨days, hdays⟩ : ∃ days : Int,
      days = y % 400 * 365 + y % 400 / 4 - y % 400 / 100 + t := ⟨_, rfl⟩
  have hmonths : (5 * t + 2) / 153 = m := by
    rw [ht]
    apply monthFromMarch_eq <;> omega
  obtain ⟨ht0, ht365, hlast⟩ : 0 ≤ t ∧ t ≤ 365 ∧ (t = 365 → m = 11 ∧ (day : Int) = 29) := by
    rw [ht]
    apply dayOfYear_bounds <;> omega
  have hyears : (days - days / 1460 + days / 36524 - days / 146096) / 365 = y % 400 := by
    apply yearOfEra_eq (t := t) (by omega) (by omega) ht0 ht365 _ hdays
    intro hend
    obtain ⟨hm11, hd29⟩ := hlast hend
    have hfeb : month = 2 := by omega
    have hyear := hleap hfeb (by omega)
    rw [isLeap_iff] at hyear
    rw [if_pos (by omega)] at hy
    omega
  have hbound : 0 ≤ days ∧ days < 146097 := by omega
  have hshift : toDays ⟨year, month, day⟩ + 719468 = y / 400 * 146097 + days := by
    simp only [toDays]
    rw [← hm, ← hy]
    omega
  have hera : (toDays ⟨year, month, day⟩ + 719468) / 146097 = y / 400 := by omega
  have hrem : (toDays ⟨year, month, day⟩ + 719468) % 146097 = days := by omega
  simp only [ofDays]
  rw [hera, hrem, hyears]
  have ht' : days - (365 * (y % 400) + y % 400 / 4 - y % 400 / 100) = t := by omega
  rw [ht', hmonths]
  have hy' : y % 400 + y / 400 * 400 = y := by omega
  have hday' : t - (153 * m + 2) / 5 + 1 = day := by omega
  have hmonth' : (if m < 10 then m + 3 else m - 9) = month := by split <;> omega
  rw [hy', hday', hmonth', Int.toNat_natCast, Int.toNat_natCast, hy]
  congr 1
  split <;> split <;> omega

end Date

namespace Instant

/-- What a clock shows between the years 0 and 9999, leap seconds left out. -/
structure Reading (i : Instant) : Prop where
  date : i.date.Valid
  year_nonneg : 0 ≤ i.date.year
  year_le : i.date.year ≤ 9999
  second_lt : i.time.second < 86400
  nanosecond_lt : i.time.nanosecond < 1000000000

/-- What a clock shows between the years 0 and 9999. A leap second follows second 59. -/
structure Shown (i : Instant) : Prop where
  date : i.date.Valid
  year_nonneg : 0 ≤ i.date.year
  year_le : i.date.year ≤ 9999
  second_lt : i.time.second < 86400
  nanosecond_lt : i.time.nanosecond < 1000000000 ∨
    i.time.second % 60 = 59 ∧ i.time.nanosecond < 2000000000

variable {i : Instant}

theorem Reading.shown (h : i.Reading) : i.Shown :=
  ⟨h.date, h.year_nonneg, h.year_le, h.second_lt, .inl h.nanosecond_lt⟩

theorem Shown.hasYear (h : i.Shown) : Date.hasYear i.date.year = true := by
  have hleast : Date.leastYear ≤ i.date.year := Int.le_trans (by decide) h.year_nonneg
  have hgreatest : i.date.year ≤ Date.greatestYear := Int.le_trans h.year_le (by decide)
  simp [Date.hasYear, hleast, hgreatest]

/-- Clocks at Greenwich show the instant itself. -/
theorem ofLocal?_greenwich (h : i.Shown) : ofLocal? i.date i.time 0 = some i := by
  have hsecond := h.second_lt
  have hdays : (i.date.toDays * 86400 + i.time.second - 0) / 86400 = i.date.toDays := by omega
  have hseconds : ((i.date.toDays * 86400 + i.time.second - 0) % 86400).toNat = i.time.second := by
    omega
  have hday : Date.ofDays? i.date.toDays = some i.date := by
    rw [Date.ofDays?, Date.ofDays_toDays h.date]
    simp [h.hasYear]
  rw [ofLocal?]
  simp only [hdays, hseconds, hday, Option.map_some]

/-- The seconds on the clock, 60 in a leap second. -/
def clockSecond (t : TimeOfDay) : Nat :=
  t.second % 60 + if 1000000000 ≤ t.nanosecond then 1 else 0

theorem clockSecond_le (t : TimeOfDay) : clockSecond t ≤ 60 := by
  rw [clockSecond]
  split <;> omega

theorem ofClock_parts (h : i.Shown) :
    TimeOfDay.ofClock (i.time.second / 3600) (i.time.second / 60 % 60) (clockSecond i.time)
      (i.time.nanosecond % 1000000000) = i.time := by
  obtain ⟨date, second, nanosecond⟩ := i
  have hnanosecond : nanosecond < 1000000000 ∨ second % 60 = 59 ∧ nanosecond < 2000000000 :=
    h.nanosecond_lt
  have hclock : clockSecond ⟨second, nanosecond⟩ =
      second % 60 + if 1000000000 ≤ nanosecond then 1 else 0 := rfl
  dsimp only
  rw [TimeOfDay.ofClock, hclock]
  by_cases hleap : 1000000000 ≤ nanosecond
  · rw [if_pos hleap, if_pos (by omega)]
    congr 1 <;> omega
  · rw [if_neg hleap, if_neg (by omega)]
    congr 1 <;> omega

theorem build_of_shown (h : i.Shown) :
    build i.date.year i.date.month i.date.day (i.time.second / 3600) (i.time.second / 60 % 60)
      (clockSecond i.time) (i.time.nanosecond % 1000000000) 0 = .ok i := by
  have hgreenwich := ofLocal?_greenwich h
  simp [build, Date.ofParts?_of_valid h.date h.hasYear, ofClock_parts h, orRange, bind, Except.bind,
    hgreenwich]

theorem scanFraction_fractionText {n : Nat} (hn : n < 1000000000) {mark : Char}
    (hm : mark.isDigit = false) (hp : mark ≠ '.') (rest : List Char) :
    scanFraction ((fractionText n).toList ++ mark :: rest) = .ok (n, mark :: rest) := by
  have hpart {width q : Nat} (hw : 0 < width) (hw' : width ≤ 9) (hq : q < 10 ^ width) :
      scanFraction (("." ++ padLeft width q).toList ++ mark :: rest) =
        .ok (q * 10 ^ (9 - width), mark :: rest) := by
    rw [String.toList_append]
    exact scanNanoseconds_append (digits_padLeft hw hq) hw hw' hq hm rest
  unfold fractionText
  split
  · next h0 =>
      subst h0
      simp [scanFraction, hp]
  · split
    · rw [hpart (by decide) (by decide) (by omega)]
      congr 2
      omega
    · split
      · rw [hpart (by decide) (by decide) (by omega)]
        congr 2
        omega
      · rw [hpart (by decide) (by decide) (by omega)]
        simp

theorem length_le_utf8ByteSize (cs : List Char) : cs.length ≤ (String.ofList cs).utf8ByteSize := by
  rw [String.utf8ByteSize_ofList]
  induction cs with
  | nil => exact Nat.zero_le _
  | cons c cs ih =>
      rw [String.utf8Len_cons, List.length_cons]
      exact Nat.add_le_add ih c.utf8Size_pos

/-- The parts of a text of RFC 3339 that names Greenwich. -/
theorem readStrict_append {year month day hour minute second nanosecond : Nat} {date : Date}
    {ycs mcs dcs hcs ncs scs fcs : List Char} (hy : Digits 4 year ycs) (hm : Digits 2 month mcs)
    (hd : Digits 2 day dcs) (hh : Digits 2 hour hcs) (hn : Digits 2 minute ncs)
    (hs : Digits 2 second scs) (hdate : Date.ofParts? year month day = some date)
    (hclock : hour ≤ 23 ∧ minute ≤ 59 ∧ second ≤ 60)
    (hf : scanFraction (fcs ++ ['+', '0', '0', ':', '0', '0']) =
      .ok (nanosecond, ['+', '0', '0', ':', '0', '0'])) :
    readStrict (ycs ++ '-' :: (mcs ++ '-' :: (dcs ++ 'T' :: (hcs ++ ':' :: (ncs ++ ':' ::
      (scs ++ (fcs ++ ['+', '0', '0', ':', '0', '0']))))))) =
      build year month day hour minute second nanosecond 0 := by
  generalize hrest : '-' :: (mcs ++ '-' :: (dcs ++ 'T' :: (hcs ++ ':' :: (ncs ++ ':' ::
    (scs ++ (fcs ++ ['+', '0', '0', ':', '0', '0'])))))) = rest
  have hlong : ¬(String.ofList (ycs ++ rest)).utf8ByteSize < 19 := by
    have hsize := length_le_utf8ByteSize (ycs ++ rest)
    have hlength : 15 ≤ rest.length := by
      simp only [← hrest, List.length_append, List.length_cons, hm.length, hd.length, hh.length,
        hn.length, hs.length]
      omega
    rw [List.length_append, hy.length] at hsize
    omega
  obtain ⟨century, yearOfCentury, tail, hcentury, hyearOfCentury, rfl⟩ := scanTwo_century hy rest
  have hoffset : scanOffset colonMark ['+', '0', '0', ':', '0', '0'] = .ok (0, []) := by decide
  have hmark (c : Char) (rest : List Char) : scanMark c (c :: rest) = .ok rest := by
    simp [scanMark]
  have hdateMark (rest : List Char) : scanDateMark ('T' :: rest) = .ok rest := by
    simp [scanDateMark]
  have hhour : ¬23 < hour := Nat.not_lt.mpr hclock.1
  have hminute : ¬59 < minute := Nat.not_lt.mpr hclock.2.1
  have hseconds : ¬60 < second := Nat.not_lt.mpr hclock.2.2
  simp only [readStrict, bind, Except.bind, hlong, if_false, hcentury, hyearOfCentury]
  simp only [← hrest, hmark, scanTwo_append hm, scanTwo_append hd, orRange, hdate, hdateMark,
    colonMark, scanTwo_append hh, scanTwo_append hn, scanTwo_append hs, hf, hoffset]
  simp [hhour, hminute, hseconds]

theorem Shown.digits (h : i.Shown) :
    Digits 4 i.date.year.natAbs (padLeft 4 i.date.year.natAbs).toList ∧
      Digits 2 i.date.month (padLeft 2 i.date.month).toList ∧
      Digits 2 i.date.day (padLeft 2 i.date.day).toList ∧
      Digits 2 (i.time.second / 3600) (padLeft 2 (i.time.second / 3600)).toList ∧
      Digits 2 (i.time.second / 60 % 60) (padLeft 2 (i.time.second / 60 % 60)).toList ∧
      Digits 2 (clockSecond i.time) (padLeft 2 (clockSecond i.time)).toList := by
  have hfirst := h.year_nonneg
  have hlast := h.year_le
  have hmonth := h.date.month_le
  have hday := h.date.day_le_31
  have hsecond := h.second_lt
  have hclock := clockSecond_le i.time
  refine ⟨?_, ?_, ?_, ?_, ?_, ?_⟩ <;> exact digits_padLeft (by decide) (by omega)

theorem toList_stamp (h : i.Shown) : (stamp i).toList =
    (padLeft 4 i.date.year.natAbs).toList ++ '-' :: ((padLeft 2 i.date.month).toList ++
      '-' :: ((padLeft 2 i.date.day).toList ++ 'T' ::
      ((padLeft 2 (i.time.second / 3600)).toList ++ ':' ::
      ((padLeft 2 (i.time.second / 60 % 60)).toList ++ ':' ::
      ((padLeft 2 (clockSecond i.time)).toList ++
      ((fractionText (i.time.nanosecond % 1000000000)).toList ++
        ['+', '0', '0', ':', '0', '0'])))))) := by
  have hyear : yearText i.date.year = padLeft 4 i.date.year.natAbs := by
    have h0 := h.year_nonneg
    have h1 := h.year_le
    rw [yearText, if_neg (by omega), if_neg (by omega)]
  simp [stamp, withZone, Date.text, clockText, clockSecond, hyear]

theorem readStrict_stamp (h : i.Shown) : readStrict (stamp i).toList = .ok i := by
  have hyear : ((i.date.year.natAbs : Nat) : Int) = i.date.year := by
    have h0 := h.year_nonneg
    omega
  have hdate : Date.ofParts? i.date.year.natAbs i.date.month i.date.day = some i.date := by
    rw [hyear]
    exact Date.ofParts?_of_valid h.date h.hasYear
  have hsecond := h.second_lt
  have hclock := clockSecond_le i.time
  obtain ⟨hycs, hmcs, hdcs, hhcs, hncs, hscs⟩ := h.digits
  rw [toList_stamp h, readStrict_append hycs hmcs hdcs hhcs hncs hscs hdate (by omega)
    (scanFraction_fractionText (Nat.mod_lt _ (by decide)) (by decide) (by decide) _), hyear]
  exact build_of_shown h

end Instant
end TableQuery.Calendar
