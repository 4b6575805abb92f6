import TableQuery.Calendar.Bucket
import TableQuery.Proofs.Calendar.DayCount

namespace TableQuery.Calendar

namespace Date

/-- The earliest date, a Thursday. -/
def first : Date := ⟨leastYear, 1, 1⟩

theorem first_valid : first.Valid := valid_firstOfMonth leastYear le_rfl (by decide)

theorem toDays_first : first.toDays = -96465292 := by decide

theorem first_le_iff {d : Date} (h : d.Valid) : first.toDays ≤ d.toDays ↔ leastYear ≤ d.year := by
  have hm := h.month_pos
  have hday := h.day_pos
  rw [toDays_le_iff first_valid h, le_def]
  simp only [first]
  omega

theorem InCalendar.of_le {s d : Date} (hd : d.InCalendar) (hs : s.Valid) (h : s ≤ d) :
    s.InCalendar ↔ first.toDays ≤ s.toDays := by
  have hyear := hd.hasYear
  simp only [Date.hasYear, Bool.and_eq_true, decide_eq_true_eq] at hyear
  rw [le_def] at h
  rw [first_le_iff hs]
  constructor
  · intro hc
    have hleast := hc.hasYear
    simp only [Date.hasYear, Bool.and_eq_true, decide_eq_true_eq] at hleast
    exact hleast.1
  · intro hleast
    refine ⟨hs, ?_⟩
    simp only [Date.hasYear, Bool.and_eq_true, decide_eq_true_eq]
    omega

end Date

namespace Bucket

/-- Both days lie in one period. A week is the seven days from a Monday on. -/
def Shares (b : Bucket) (d e : Date) : Prop :=
  match b with
  | .day => d = e
  | .week => ∃ monday : Date, monday.Valid ∧ monday.weekday = 0 ∧
      (monday.toDays ≤ d.toDays ∧ d.toDays < monday.toDays + 7) ∧
      (monday.toDays ≤ e.toDays ∧ e.toDays < monday.toDays + 7)
  | .month => d.year = e.year ∧ d.month = e.month
  | .quarter => d.year = e.year ∧ (d.month - 1) / 3 = (e.month - 1) / 3
  | .year => d.year = e.year

/-- The units whose periods are made up of the unit's own. -/
def coarser : Bucket → List Bucket
  | .day => [.week, .month, .quarter, .year]
  | .month => [.quarter, .year]
  | .quarter => [.year]
  | .week | .year => []

variable {b c : Bucket} {d e s t : Date}

theorem Shares.refl (b : Bucket) (d : Date) : b.Shares d d := by
  cases b with
  | week =>
      have hmonday := Date.toDays_ofDays (d.toDays - d.weekday)
      refine ⟨_, Date.valid_ofDays (d.toDays - d.weekday), ?_⟩
      simp only [Date.weekday] at hmonday ⊢
      omega
  | day => rfl
  | year => rfl
  | _ => exact ⟨rfl, rfl⟩

theorem Shares.symm (h : b.Shares d e) : b.Shares e d := by
  cases b with
  | week =>
      obtain ⟨monday, hv, hm, hd, he⟩ := h
      exact ⟨monday, hv, hm, he, hd⟩
  | day => exact Eq.symm h
  | year => exact Eq.symm h
  | _ => exact ⟨h.1.symm, h.2.symm⟩

theorem Shares.trans (h : b.Shares d e) (h' : b.Shares e s) : b.Shares d s := by
  cases b with
  | week =>
      obtain ⟨monday, hv, hm, hd, he⟩ := h
      obtain ⟨monday', -, hm', he', hs⟩ := h'
      refine ⟨monday, hv, hm, hd, ?_⟩
      simp only [Date.weekday] at hm hm'
      omega
  | day => exact Eq.trans h h'
  | year => exact Eq.trans h h'
  | _ => exact ⟨h.1.trans h'.1, h.2.trans h'.2⟩

theorem Shares.coarser (h : b.Shares d e) (hc : c ∈ b.coarser) : c.Shares d e := by
  cases b with
  | day =>
      obtain rfl : d = e := h
      exact .refl c d
  | month =>
      simp only [Bucket.coarser, List.mem_cons, List.not_mem_nil, or_false] at hc
      rcases hc with rfl | rfl
      · exact ⟨h.1, by rw [h.2]⟩
      · exact h.1
  | quarter =>
      simp only [Bucket.coarser, List.mem_cons, List.not_mem_nil, or_false] at hc
      subst hc
      exact h.1
  | _ => cases hc

theorem start?_congr (h : b.Shares d e) : b.start? d = b.start? e := by
  cases b with
  | week =>
      obtain ⟨monday, -, hm, hd, he⟩ := h
      have hstart : d.toDays - d.weekday = e.toDays - e.weekday := by
        simp only [Date.weekday] at hm ⊢
        omega
      rw [start?, start?, hstart]
  | day => exact congrArg some h
  | month => simp only [start?, h.1, h.2]
  | quarter => simp only [start?, h.1, h.2]
  | year => exact congrArg (fun year => some (Date.mk year 1 1)) h

theorem shares_start (h : b.start? d = some s) : b.Shares s d := by
  cases b with
  | week =>
      obtain ⟨hs, hn⟩ := Date.ofDays?_eq_some_iff.mp h
      refine ⟨s, hs.valid, ?_⟩
      simp only [Date.weekday] at hn ⊢
      omega
  | day => exact (Option.some.inj h).symm
  | month =>
      obtain rfl := Option.some.inj h
      exact ⟨rfl, rfl⟩
  | quarter =>
      obtain rfl := Option.some.inj h
      refine ⟨rfl, ?_⟩
      simp only
      omega
  | year =>
      obtain rfl := Option.some.inj h
      rfl

theorem start?_start (h : b.start? d = some s) : b.start? s = some s :=
  (start?_congr (shares_start h)).trans (by rw [h])

theorem start?_coarser (hc : c ∈ b.coarser) (h : b.start? d = some s) :
    c.start? s = c.start? d :=
  start?_congr ((shares_start h).coarser hc)

theorem isSome_start? (h : (Bucket.week.start? d).isSome) (b : Bucket) : (b.start? d).isSome := by
  cases b with
  | week => exact h
  | _ => rfl

theorem start_eq_iff (hs : b.start? d = some s) (ht : b.start? e = some t) :
    s = t ↔ b.Shares d e := by
  constructor
  · rintro rfl
    exact (shares_start hs).symm.trans (shares_start ht)
  · intro h
    exact Option.some.inj (hs.symm.trans ((start?_congr h).trans ht))

theorem inCalendar_start (hd : d.InCalendar) (h : b.start? d = some s) : s.InCalendar := by
  have hm := hd.valid.month_pos
  have hm' := hd.valid.month_le
  cases b with
  | week => exact (Date.ofDays?_eq_some_iff.mp h).1
  | day =>
      obtain rfl := Option.some.inj h
      exact hd
  | month =>
      obtain rfl := Option.some.inj h
      exact ⟨Date.valid_firstOfMonth d.year hm hm', hd.hasYear⟩
  | quarter =>
      obtain rfl := Option.some.inj h
      exact ⟨Date.valid_firstOfMonth d.year (Nat.le_add_left 1 _) (by omega), hd.hasYear⟩
  | year =>
      obtain rfl := Option.some.inj h
      exact ⟨Date.valid_firstOfMonth d.year le_rfl (by decide), hd.hasYear⟩

theorem start_mono (hd : d.InCalendar) (he : e.InCalendar) (hs : b.start? d = some s)
    (ht : b.start? e = some t) (h : d ≤ e) : s ≤ t := by
  cases b with
  | week =>
      obtain ⟨hsc, hsn⟩ := Date.ofDays?_eq_some_iff.mp hs
      obtain ⟨htc, htn⟩ := Date.ofDays?_eq_some_iff.mp ht
      rw [← Date.toDays_le_iff hd.valid he.valid] at h
      rw [← Date.toDays_le_iff hsc.valid htc.valid]
      simp only [Date.weekday] at hsn htn
      omega
  | day =>
      obtain rfl := Option.some.inj hs
      obtain rfl := Option.some.inj ht
      exact h
  | year =>
      obtain rfl := Option.some.inj hs
      obtain rfl := Option.some.inj ht
      exact h.imp id fun h => ⟨h.1, .inr ⟨rfl, le_rfl⟩⟩
  | _ =>
      obtain rfl := Option.some.inj hs
      obtain rfl := Option.some.inj ht
      rw [Date.le_def] at h ⊢
      simp only [le_refl, and_true]
      omega

theorem start_le (hd : d.InCalendar) (h : b.start? d = some s) : s ≤ d := by
  have hm := hd.valid.month_pos
  have hday := hd.valid.day_pos
  cases b with
  | week =>
      obtain ⟨hs, hn⟩ := Date.ofDays?_eq_some_iff.mp h
      rw [← Date.toDays_le_iff hs.valid hd.valid]
      simp only [Date.weekday] at hn
      omega
  | day =>
      obtain rfl := Option.some.inj h
      exact Date.le_rfl
  | month =>
      obtain rfl := Option.some.inj h
      exact .inr ⟨rfl, .inr ⟨rfl, hday⟩⟩
  | _ =>
      obtain rfl := Option.some.inj h
      refine .inr ⟨rfl, ?_⟩
      simp only
      omega

/-- Four days stand before the first Monday of the calendar. -/
theorem weekStart_eq_none_iff (hd : d.InCalendar) :
    Date.ofDays? (d.toDays - d.weekday) = none ↔
      d.year = Date.leastYear ∧ d.month = 1 ∧ d.day ≤ 4 := by
  obtain ⟨monday, hv, hn⟩ := Date.exists_valid_toDays (d.toDays - d.weekday)
  have hle : monday ≤ d := by
    rw [← Date.toDays_le_iff hv hd.valid, hn, Date.weekday]
    omega
  have hfirst := (Date.InCalendar.of_le hd hd.valid Date.le_rfl).mp hd
  have hsunday : d.toDays ≤ Date.first.toDays + 3 ↔
      d.year = Date.leastYear ∧ d.month = 1 ∧ d.day ≤ 4 := by
    have hvalid : Date.Valid ⟨Date.leastYear, 1, 4⟩ := ⟨by decide, by decide, by decide, by decide⟩
    have hdays : Date.toDays ⟨Date.leastYear, 1, 4⟩ = Date.first.toDays + 3 := by decide
    have hyear := (Date.first_le_iff hd.valid).mp hfirst
    have hm := hd.valid.month_pos
    rw [← hdays, Date.toDays_le_iff hd.valid hvalid, Date.le_def]
    simp only
    omega
  rw [← hn, Date.ofDays?_toDays_eq_none_iff hv, Date.InCalendar.of_le hd hv hle, ← hsunday]
  simp only [Date.weekday] at hn
  rw [Date.toDays_first] at hfirst ⊢
  omega

end Bucket
end TableQuery.Calendar
