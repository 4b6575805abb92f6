import TableQuery.Proofs.Calendar.DateTexts
import TableQuery.Proofs.Calendar.Periods
import TableQuery.Proofs.Rows.LostWeeks

namespace TableQuery

open Calendar (Date)

namespace Cell

variable {j : Json} {b c : Bucket} {d s : Date}

theorem inCalendar_dateOfDigits {digits : List Char} (h : dateOfDigits digits = some d) :
    d.InCalendar := by
  unfold dateOfDigits at h
  split at h
  · cases h
  · next n _ =>
      split at h
      · next hyear =>
          obtain rfl := Option.some.inj h
          simp only [isYear, Bool.and_eq_true, decide_eq_true_eq] at hyear
          have hleast : Date.leastYear = -262143 := rfl
          have hgreatest : Date.greatestYear = 262142 := rfl
          refine ⟨Date.valid_firstOfMonth n le_rfl (by decide), ?_⟩
          simp only [Date.hasYear, Bool.and_eq_true, decide_eq_true_eq]
          omega
      · obtain ⟨i, hi, rfl⟩ := Option.map_eq_some_iff.mp h
        obtain ⟨d, hd, rfl⟩ := Option.map_eq_some_iff.mp hi
        exact (Date.ofDays?_eq_some_iff.mp hd).1

theorem inCalendar_date? (h : date? j = some d) : d.InCalendar := by
  obtain ⟨s, -, hs⟩ := Option.bind_eq_some_iff.mp h
  simp only at hs
  split at hs
  · exact inCalendar_dateOfDigits hs
  · exact Calendar.inCalendar_readDate? hs

theorem date?_text (h : d.InCalendar) : date? (.str d.text) = some d := by
  have hmark : (d.text.toList.all Char.isDigit) = false := by
    rw [Calendar.toList_text]
    simp
  simp only [date?, text?, Option.bind_some, Calendar.trimChars_text, hmark, Bool.and_false,
    Bool.false_eq_true, if_false, Calendar.readDate?_text h]

theorem bucket?_of_date? (h : date? j = some d) :
    bucket? j b = (b.start? d).map fun s => .str s.text := by
  rw [bucket?, h]

theorem bucket?_text (h : s.InCalendar) :
    bucket? (.str s.text) b = (b.start? s).map fun s => .str s.text :=
  bucket?_of_date? (date?_text h)

end Cell

open Cell in
/-- A bucket is missing only for the week of the four days before the calendar's first Monday. All
other cells have one: null without a date, and else the text of a day in the date's period. -/
theorem bucket_missing_iff (j : Json) (b : Bucket) :
    (bucket? j b = none ↔ b = .week ∧
      ∃ d, date? j = some d ∧ d.year = Date.leastYear ∧ d.month = 1 ∧ d.day ≤ 4) ∧
      (bucket? j b = some .null ↔ date? j = none) ∧
      ∀ d, date? j = some d → d.InCalendar ∧ ∀ k, bucket? j b = some k →
        ∃ s : Date, s.InCalendar ∧ b.Shares s d ∧ k = .str s.text := by
  refine ⟨?_, ?_, fun d hd => ⟨inCalendar_date? hd, fun k hk => ?_⟩⟩
  · rw [bucket?_eq_none_iff]
    constructor
    · rintro ⟨d, hd, hs⟩
      obtain ⟨rfl, hw⟩ := Calendar.Bucket.start?_eq_none_iff.mp hs
      exact ⟨rfl, d, hd, (Calendar.Bucket.weekStart_eq_none_iff (inCalendar_date? hd)).mp hw⟩
    · rintro ⟨rfl, d, hd, hfirst⟩
      exact ⟨d, hd, (Calendar.Bucket.weekStart_eq_none_iff (inCalendar_date? hd)).mpr hfirst⟩
  · cases hd : date? j with
    | none => simp [bucket?, hd]
    | some d => simp [bucket?_of_date? hd]
  · rw [bucket?_of_date? hd] at hk
    obtain ⟨s, hs, rfl⟩ := Option.map_eq_some_iff.mp hk
    exact ⟨s, Calendar.Bucket.inCalendar_start (inCalendar_date? hd) hs,
      Calendar.Bucket.shares_start hs, rfl⟩

/-- The first day of the calendar is a Thursday. -/
theorem firstDay_without_week :
    Cell.date? (.str "-262143-01-01") = some ⟨-262143, 1, 1⟩ ∧
      Cell.bucket? (.str "-262143-01-01") .week = none :=
  ⟨rfl, rfl⟩

open Cell in
/-- For cells whose weeks start in the calendar, a bucket is the text of a day that is read back and
is not after the cell's own. It has the same bucket and the same coarser buckets as the cell, and the
days stand in the order of their cells, equal exactly for cells that share a period. -/
theorem buckets_nest {j : Json} {d : Date} (hd : date? j = some d)
    (hw : (Calendar.Bucket.week.start? d).isSome) :
    (∀ b : Bucket, ∃ s, bucket? j b = some (.str s.text) ∧ s ≤ d ∧ date? (.str s.text) = some s ∧
      bucket? (.str s.text) b = some (.str s.text) ∧
      ∀ c ∈ b.coarser, bucket? (.str s.text) c = bucket? j c) ∧
      ∀ (k : Json) (e : Date), date? k = some e → (Calendar.Bucket.week.start? e).isSome → d ≤ e →
        ∀ b : Bucket, ∃ s t : Date, bucket? j b = some (.str s.text) ∧
          bucket? k b = some (.str t.text) ∧ s ≤ t ∧ (s = t ↔ b.Shares d e) := by
  have hc := inCalendar_date? hd
  refine ⟨fun b => ?_, fun k e he hwe hle b => ?_⟩
  · obtain ⟨s, hs⟩ := Option.isSome_iff_exists.mp (Calendar.Bucket.isSome_start? hw b)
    have hsc := Calendar.Bucket.inCalendar_start hc hs
    refine ⟨s, ?_, Calendar.Bucket.start_le hc hs, date?_text hsc, ?_, fun c hcb => ?_⟩
    · rw [bucket?_of_date? hd, hs, Option.map_some]
    · rw [bucket?_text hsc, Calendar.Bucket.start?_start hs, Option.map_some]
    · rw [bucket?_text hsc, bucket?_of_date? hd, Calendar.Bucket.start?_coarser hcb hs]
  · obtain ⟨s, hs⟩ := Option.isSome_iff_exists.mp (Calendar.Bucket.isSome_start? hw b)
    obtain ⟨t, ht⟩ := Option.isSome_iff_exists.mp (Calendar.Bucket.isSome_start? hwe b)
    refine ⟨s, t, ?_, ?_, Calendar.Bucket.start_mono hc (inCalendar_date? he) hs ht hle,
      Calendar.Bucket.start_eq_iff hs ht⟩
    · rw [bucket?_of_date? hd, hs, Option.map_some]
    · rw [bucket?_of_date? he, ht, Option.map_some]

theorem thursday_buckets_nest :
    let thursday : Json := .str "2024-05-16 10:11:12"
    let monday : Json := .int 1716163200
    Cell.date? thursday = some ⟨2024, 5, 16⟩ ∧ Cell.date? monday = some ⟨2024, 5, 20⟩ ∧
      (∃ s : Date, Cell.bucket? thursday .week = some (.str s.text) ∧
        Cell.bucket? (.str s.text) .week = some (.str s.text)) ∧
      (∃ s t : Date, Cell.bucket? thursday .week = some (.str s.text) ∧
        Cell.bucket? monday .week = some (.str t.text) ∧ s ≠ t) ∧
      ∃ s : Date, Cell.bucket? thursday .month = some (.str s.text) ∧
        Cell.bucket? monday .month = some (.str s.text) := by
  intro thursday monday
  have hd : Cell.date? thursday = some ⟨2024, 5, 16⟩ := rfl
  have he : Cell.date? monday = some ⟨2024, 5, 20⟩ := by decide +kernel
  have hw : (Calendar.Bucket.week.start? ⟨2024, 5, 16⟩).isSome := rfl
  have hwe : (Calendar.Bucket.week.start? ⟨2024, 5, 20⟩).isSome := rfl
  have hle : (⟨2024, 5, 16⟩ : Date) ≤ ⟨2024, 5, 20⟩ := .inr ⟨rfl, .inr ⟨rfl, by decide⟩⟩
  obtain ⟨hown, hboth⟩ := buckets_nest hd hw
  obtain ⟨s, hs, -, -, hsame, -⟩ := hown .week
  obtain ⟨t, u, ht, hu, -, hweek⟩ := hboth monday _ he hwe hle .week
  obtain ⟨m, n, hm, hn, -, hmonth⟩ := hboth monday _ he hwe hle .month
  refine ⟨hd, he, ⟨s, hs, hsame⟩, ⟨t, u, ht, hu, fun h => ?_⟩, m, hm, ?_⟩
  · have hshare := Calendar.Bucket.start?_congr (hweek.mp h)
    exact absurd hshare (by decide)
  · rw [hmonth.mpr ⟨rfl, rfl⟩]
    exact hn

end TableQuery
