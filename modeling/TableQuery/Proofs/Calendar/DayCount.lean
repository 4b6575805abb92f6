import Mathlib.Algebra.Order.Group.Int
import Mathlib.Order.Monotone.Basic
import Mathlib.Algebra.Order.SuccPred
import TableQuery.Proofs.Calendar.Stamps

namespace TableQuery.Calendar.Date

/-- By year, then by month, then by day. -/
instance : LE Date where
  le d e := d.year < e.year ∨
    d.year = e.year ∧ (d.month < e.month ∨ d.month = e.month ∧ d.day ≤ e.day)

theorem le_def {d e : Date} : d ≤ e ↔ d.year < e.year ∨
    d.year = e.year ∧ (d.month < e.month ∨ d.month = e.month ∧ d.day ≤ e.day) :=
  Iff.rfl

protected theorem le_rfl {d : Date} : d ≤ d := .inr ⟨rfl, .inr ⟨rfl, le_rfl⟩⟩

/-- The first day of a month. Months are counted from March of the year 0. -/
def monthStart (n : Int) : Int :=
  365 * (n / 12) + n / 12 / 4 - n / 12 / 100 + n / 12 / 400 + (153 * (n % 12) + 2) / 5 - 719468

def monthIndex (d : Date) : Int := 12 * d.year + d.month - 3

theorem monthStart_succ (year : Int) {month : Nat} (h : 1 ≤ month) (h' : month ≤ 12) :
    monthStart (12 * year + month - 3 + 1) =
      monthStart (12 * year + month - 3) + daysInMonth year month := by
  have hfeb : (daysInMonth year 2 : Int) =
      if year % 4 = 0 ∧ (year % 100 ≠ 0 ∨ year % 400 = 0) then 29 else 28 := by
    simp only [daysInMonth, isLeap_iff]
    split <;> rfl
  unfold monthStart
  obtain rfl | hm := eq_or_ne month 2
  · rw [hfeb]
    split <;> omega
  · interval_cases month
    all_goals first | exact absurd rfl hm | (simp only [daysInMonth]; omega)

theorem daysInMonth_pos (year : Int) (month : Nat) : 0 < daysInMonth year month := by
  unfold daysInMonth
  split
  · split <;> decide
  all_goals decide

theorem valid_firstOfMonth (year : Int) {month : Nat} (h : 1 ≤ month) (h' : month ≤ 12) :
    Valid ⟨year, month, 1⟩ :=
  ⟨h, h', le_rfl, daysInMonth_pos year month⟩

theorem monthStart_le_monthStart {m n : Int} (h : m ≤ n) : monthStart m ≤ monthStart n := by
  refine monotone_int_of_le_succ (fun k => ?_) h
  obtain ⟨year, month, hm, hm', rfl⟩ : ∃ (year : Int) (month : Nat), 1 ≤ month ∧ month ≤ 12 ∧
      k = 12 * year + month - 3 :=
    ⟨(k + 2) / 12, ((k + 2) % 12 + 1).toNat, by omega, by omega, by omega⟩
  rw [monthStart_succ year hm hm']
  omega

section Valid

variable {d e : Date} (hd : d.Valid) (he : e.Valid)

include hd

theorem toDays_eq : d.toDays = monthStart d.monthIndex + d.day - 1 := by
  have hm := hd.month_pos
  have hm' := hd.month_le
  have hyear : d.monthIndex / 12 = if d.month ≤ 2 then d.year - 1 else d.year := by
    unfold monthIndex
    split <;> omega
  have hmonth : d.monthIndex % 12 = ((d.month : Int) + 9) % 12 := by
    unfold monthIndex
    omega
  simp only [toDays, monthStart, hyear, hmonth]
  generalize (if d.month ≤ 2 then d.year - 1 else d.year) = year
  omega

theorem toDays_lt_monthStart_succ : d.toDays < monthStart (d.monthIndex + 1) := by
  have hstart := monthStart_succ d.year hd.month_pos hd.month_le
  have hday := hd.day_le
  rw [toDays_eq hd, monthIndex, hstart]
  omega

include he

theorem toDays_lt_of_monthIndex_lt (h : d.monthIndex < e.monthIndex) : d.toDays < e.toDays := by
  have hday := he.day_pos
  calc d.toDays < monthStart (d.monthIndex + 1) := toDays_lt_monthStart_succ hd
    _ ≤ monthStart e.monthIndex := monthStart_le_monthStart h
    _ ≤ e.toDays := by
        rw [toDays_eq he]
        omega

theorem toDays_le_iff : d.toDays ≤ e.toDays ↔ d ≤ e := by
  have hm := hd.month_pos
  have hm' := hd.month_le
  have hn := he.month_pos
  have hn' := he.month_le
  have hindex : d.monthIndex = 12 * d.year + d.month - 3 := rfl
  have hindex' : e.monthIndex = 12 * e.year + e.month - 3 := rfl
  rw [le_def]
  rcases lt_trichotomy d.monthIndex e.monthIndex with h | h | h
  · have hlt := toDays_lt_of_monthIndex_lt hd he h
    omega
  · have heq : e.toDays - d.toDays = e.day - d.day := by
      rw [toDays_eq hd, toDays_eq he, h]
      omega
    omega
  · have hlt := toDays_lt_of_monthIndex_lt he hd h
    omega

theorem toDays_lt_iff : d.toDays < e.toDays ↔ d.year < e.year ∨
    d.year = e.year ∧ (d.month < e.month ∨ d.month = e.month ∧ d.day < e.day) := by
  rw [← not_le, toDays_le_iff he hd, le_def]
  omega

theorem toDays_eq_iff :
    d.toDays = e.toDays ↔ d.year = e.year ∧ d.month = e.month ∧ d.day = e.day := by
  have hlt := toDays_lt_iff hd he
  have hgt := toDays_lt_iff he hd
  omega

end Valid

theorem exists_next {d : Date} (h : d.Valid) : ∃ e : Date, e.Valid ∧ e.toDays = d.toDays + 1 := by
  have hm := h.month_pos
  have hm' := h.month_le
  have hday := h.day_le
  by_cases hlast : d.day < daysInMonth d.year d.month
  · have he : Valid { d with day := d.day + 1 } := ⟨hm, hm', Nat.le_add_left 1 _, hlast⟩
    refine ⟨_, he, ?_⟩
    rw [toDays_eq he, toDays_eq h]
    simp only [monthIndex]
    omega
  · obtain ⟨e, he, hindex, hfirst⟩ : ∃ e : Date, e.Valid ∧ e.monthIndex = d.monthIndex + 1 ∧
        e.day = 1 := by
      by_cases hdec : d.month = 12
      · refine ⟨_, valid_firstOfMonth (d.year + 1) le_rfl (by decide), ?_, rfl⟩
        simp only [monthIndex]
        omega
      · refine ⟨_, valid_firstOfMonth d.year (Nat.le_add_left 1 d.month) (by omega), ?_, rfl⟩
        simp only [monthIndex]
        omega
    have hstart := monthStart_succ d.year hm hm'
    refine ⟨e, he, ?_⟩
    rw [toDays_eq he, toDays_eq h, hindex, hfirst, monthIndex, hstart]
    omega

theorem exists_previous {d : Date} (h : d.Valid) :
    ∃ e : Date, e.Valid ∧ e.toDays = d.toDays - 1 := by
  have hm := h.month_pos
  have hm' := h.month_le
  have hday := h.day_le
  have hpos := h.day_pos
  by_cases hfirst : 1 < d.day
  · have he : Valid { d with day := d.day - 1 } :=
      ⟨hm, hm', Nat.le_sub_one_of_lt hfirst, (Nat.sub_le _ 1).trans hday⟩
    refine ⟨_, he, ?_⟩
    rw [toDays_eq he, toDays_eq h]
    simp only [monthIndex]
    omega
  · obtain ⟨e, he, hindex, hlast⟩ : ∃ e : Date, e.Valid ∧ e.monthIndex + 1 = d.monthIndex ∧
        e.day = daysInMonth e.year e.month := by
      by_cases hjan : d.month = 1
      · refine ⟨⟨d.year - 1, 12, 31⟩, ⟨by simp, by simp, by simp, le_refl _⟩, ?_, rfl⟩
        simp only [monthIndex]
        omega
      · refine ⟨⟨d.year, d.month - 1, daysInMonth d.year (d.month - 1)⟩, ⟨by simp only; omega,
          by simp only; omega, daysInMonth_pos _ _, le_refl _⟩, ?_, rfl⟩
        simp only [monthIndex]
        omega
    have hstart := monthStart_succ e.year he.month_pos he.month_le
    refine ⟨e, he, ?_⟩
    rw [toDays_eq he, toDays_eq h, ← hindex, hlast, monthIndex, hstart]
    omega

theorem exists_valid_toDays (n : Int) : ∃ d : Date, d.Valid ∧ d.toDays = n := by
  induction n using Int.induction_on with
  | zero => exact ⟨_, valid_firstOfMonth 1970 le_rfl (by decide), by decide⟩
  | succ n ih =>
      obtain ⟨d, hd, hn⟩ := ih
      obtain ⟨e, he, hnext⟩ := exists_next hd
      exact ⟨e, he, hnext.trans (by rw [hn])⟩
  | pred n ih =>
      obtain ⟨d, hd, hn⟩ := ih
      obtain ⟨e, he, hprevious⟩ := exists_previous hd
      exact ⟨e, he, hprevious.trans (by rw [hn])⟩

theorem valid_ofDays (n : Int) : (ofDays n).Valid := by
  obtain ⟨d, hd, rfl⟩ := exists_valid_toDays n
  rwa [ofDays_toDays hd]

theorem toDays_ofDays (n : Int) : (ofDays n).toDays = n := by
  obtain ⟨d, hd, rfl⟩ := exists_valid_toDays n
  rw [ofDays_toDays hd]

/-- A day between the first and the last one that there are dates for. -/
structure InCalendar (d : Date) : Prop where
  valid : d.Valid
  hasYear : hasYear d.year = true

theorem ofParts?_eq_some_iff {year : Int} {month day : Nat} {d : Date} :
    ofParts? year month day = some d ↔ d.InCalendar ∧ d = ⟨year, month, day⟩ := by
  constructor
  · intro h
    unfold ofParts? at h
    split at h
    · next hparts =>
        simp only [Bool.and_eq_true, decide_eq_true_eq] at hparts
        obtain ⟨⟨⟨⟨hy, hm⟩, hm'⟩, hday⟩, hday'⟩ := hparts
        obtain rfl := Option.some.inj h
        exact ⟨⟨⟨hm, hm', hday, hday'⟩, hy⟩, rfl⟩
    · cases h
  · rintro ⟨h, rfl⟩
    exact ofParts?_of_valid h.valid h.hasYear

theorem ofDays?_eq_some_iff {n : Int} {d : Date} :
    ofDays? n = some d ↔ d.InCalendar ∧ d.toDays = n := by
  constructor
  · intro h
    simp only [ofDays?] at h
    split at h
    · next hy =>
        obtain rfl := Option.some.inj h
        exact ⟨⟨valid_ofDays n, hy⟩, toDays_ofDays n⟩
    · cases h
  · rintro ⟨h, rfl⟩
    rw [ofDays?, ofDays_toDays h.valid]
    exact if_pos h.hasYear

theorem ofDays?_toDays_eq_none_iff {d : Date} (h : d.Valid) :
    ofDays? d.toDays = none ↔ ¬d.InCalendar := by
  rw [Option.eq_none_iff_forall_ne_some]
  constructor
  · exact fun hnone hd => hnone d (ofDays?_eq_some_iff.mpr ⟨hd, rfl⟩)
  · intro hd e he
    obtain ⟨hc, hdays⟩ := ofDays?_eq_some_iff.mp he
    obtain rfl : e = d := by rw [← ofDays_toDays hc.valid, hdays, ofDays_toDays h]
    exact hd hc

end TableQuery.Calendar.Date
