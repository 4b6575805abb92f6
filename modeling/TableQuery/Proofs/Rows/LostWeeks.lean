import TableQuery.Proofs.Rows.Partitions
import TableQuery.Rows.Interpretation

namespace TableQuery

theorem Calendar.Bucket.start?_eq_none_iff {b : Bucket} {d : Date} :
    b.start? d = none ↔ b = .week ∧ Date.ofDays? (d.toDays - d.weekday) = none := by
  cases b <;> simp [start?]

namespace Cell

theorem bucket?_eq_none_iff {j : Json} {b : Bucket} :
    bucket? j b = none ↔ ∃ d, date? j = some d ∧ b.start? d = none := by
  unfold bucket?
  cases date? j <;> simp

end Cell

namespace Group

theorem keyValue?_eq_none_iff {r : Row} {g : GroupField} :
    keyValue? r g = none ↔
      ∃ field cell d, g = .bucketed field .week ∧ r.get? (outputName field) = some cell ∧
        Cell.date? cell = some d ∧ Calendar.Date.ofDays? (d.toDays - d.weekday) = none := by
  cases g with
  | plain field => simp [keyValue?, GroupField.bucket]
  | bucketed field b =>
      cases hc : r.get? (outputName field) with
      | none => simp [keyValue?, GroupField.bucket, GroupField.field, hc, Json.isNull]
      | some cell =>
          have hv : keyValue? r (.bucketed field b) = none ↔
              cell.isNull = false ∧ Cell.bucket? cell b = none := by
            cases hn : cell.isNull <;>
              simp [keyValue?, GroupField.bucket, GroupField.field, hc, hn]
          have hnull {d : Calendar.Date} (hd : Cell.date? cell = some d) : cell.isNull = false := by
            cases cell with
            | null => cases hd
            | _ => rfl
          rw [hv, Cell.bucket?_eq_none_iff]
          constructor
          · rintro ⟨-, d, hd, hs⟩
            obtain ⟨rfl, hw⟩ := Calendar.Bucket.start?_eq_none_iff.mp hs
            exact ⟨field, cell, d, rfl, hc, hd, hw⟩
          · rintro ⟨field', cell', d, hg, hc', hd, hw⟩
            obtain ⟨rfl, rfl⟩ := GroupField.bucketed.inj hg
            obtain rfl : cell = cell' := Option.some.inj (hc.symm.trans hc')
            exact ⟨hnull hd, d, hd, Calendar.Bucket.start?_eq_none_iff.mpr ⟨rfl, hw⟩⟩

end Group

namespace Query

variable {q : Query}

/-- A row has a date in a column that is grouped by weeks, and its week starts before the
calendar. -/
def LosesWeek (q : Query) (r : Row) : Prop :=
  ∃ field cell d, .bucketed field .week ∈ q.groupBy ∧ r.get? (outputName field) = some cell ∧
    Cell.date? cell = some d ∧ Calendar.Date.ofDays? (d.toDays - d.weekday) = none

theorem keyValues?_eq_none_iff {r : Row} : Group.keyValues? q.groupBy r = none ↔ q.LosesWeek r := by
  rw [Group.keyValues?, mapM_eq_none_iff]
  constructor
  · rintro ⟨g, hg, hk⟩
    obtain ⟨field, cell, d, rfl, hr⟩ := Group.keyValue?_eq_none_iff.mp hk
    exact ⟨field, cell, d, hg, hr⟩
  · rintro ⟨field, cell, d, hg, hr⟩
    exact ⟨_, hg, Group.keyValue?_eq_none_iff.mpr ⟨field, cell, d, rfl, hr⟩⟩

theorem aggregate?_eq_none_iff {raw : List Row} :
    q.aggregate? raw = none ↔ ∃ r ∈ raw, q.LosesWeek r := by
  rw [aggregate?, Option.map_eq_none_iff, Group.ofRows?]
  split
  · next he =>
      have hg : q.groupBy = [] := List.isEmpty_iff.mp he
      simp [LosesWeek, hg]
  · rw [Option.map_eq_none_iff, mapM_eq_none_iff]
    simp only [Option.map_eq_none_iff, keyValues?_eq_none_iff]

theorem baseRows?_eq_none_iff {raw : List Row} :
    q.baseRows? raw = none ↔ ∃ r ∈ raw, q.LosesWeek r := by
  rw [baseRows?]
  split
  · rw [Option.map_eq_none_iff, aggregate?_eq_none_iff]
  · next hg =>
      have hg : q.groupBy = [] := by
        simp only [groups, Bool.or_eq_true, not_or, Bool.not_eq_true', Bool.not_eq_false] at hg
        simpa using hg.2
      simp [LosesWeek, hg]

end Query
end TableQuery
