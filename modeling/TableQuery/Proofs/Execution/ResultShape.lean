import TableQuery.Proofs.Execution.Conversation
import TableQuery.Proofs.Rows.LostPages
import TableQuery.Proofs.Rows.NumberForms
import TableQuery.Proofs.Rows.RowCells

namespace TableQuery

namespace Row

theorem project_columns {columns : List String} (hn : columns.Nodup) (r : Row) :
    (r.project columns).cells.map Prod.fst = columns := by
  rw [project, eraseDups_of_nodup hn, List.map_map]
  exact List.map_id _

theorem project_canonical (r : Row) (columns : List String) :
    ∀ c ∈ (r.project columns).cells, Cell.canonical c.2 = c.2 := by
  intro c hc
  obtain ⟨name, -, rfl⟩ := List.mem_map.mp hc
  dsimp only
  split
  · exact Cell.canonical_canonical _
  · rfl

end Row

/-- A page of a query's result: all rows or as many as the cap allows, under the query's columns and
with cells as they leave. -/
structure Page.WellFormed (q : Query) (p : Page) : Prop where
  columns : p.columns = q.outputColumns
  rows_length : p.rows.length = min p.totalRows q.rowCap
  truncated : p.truncated = decide (q.rowCap < p.totalRows)
  rows : ∀ r ∈ p.rows,
    r.cells.map Prod.fst = q.outputColumns ∧ ∀ c ∈ r.cells, Cell.canonical c.2 = c.2

/-- A failure has a message and nothing else, a success all of a page and no message. -/
def Outcome.WellShaped (q : Query) (o : Outcome) : Prop :=
  (∃ message, o.encode = .obj [("ok", .bool false), ("error", .str message)]) ∨
    ∃ p : Page, p.WellFormed q ∧
      o.encode = .obj [("ok", .bool true), ("rows", .arr (p.rows.map Row.toJson)),
        ("columns", .ofStrings p.columns), ("totalRows", .ofNat p.totalRows),
        ("truncated", .bool p.truncated)]

namespace Query

variable {q : Query}

section Pages

variable (hn : q.outputColumns.Nodup)

include hn

/-- A total is right if it counts all the rows there are, and may exceed them where they fill the
cap. -/
theorem page_wellFormed {rows : List Row} {total : Nat} (hle : rows.length ≤ total)
    (hall : rows.length < q.rowCap → total = rows.length) : (q.page rows total).WellFormed q where
  columns := rfl
  rows_length := by
    rw [page, List.length_map, List.length_take]
    dsimp only
    omega
  truncated := rfl
  rows := by
    intro r hr
    obtain ⟨r, -, rfl⟩ := List.mem_map.mp hr
    exact ⟨r.project_columns hn, r.project_canonical _⟩

theorem finalize?_wellFormed {rows : List Row} {p : Page} (h : q.finalize? rows = some p) :
    p.WellFormed q := by
  obtain ⟨sorted, hs, rfl⟩ := Option.map_eq_some_iff.mp h
  have hl := (sortRows?_perm hs).length_eq
  exact page_wellFormed hn (Nat.le_of_eq hl) fun _ => hl.symm

theorem runNative_wellFormed {s : Source} {table : String} {sent : List String} {p : Page}
    (h : (q.runNative s table).result sent = .ok p) : p.WellFormed q := by
  obtain ⟨rows, -, hp⟩ := runNative_eq_ok_iff.mp h
  split at hp
  · obtain rfl := hp
    exact page_wellFormed hn (Nat.le_refl _) fun _ => rfl
  · next hfull =>
      obtain ⟨counted, -, rfl⟩ := hp
      exact page_wellFormed hn (Nat.le_max_right _ _) fun hlt => absurd hlt hfull

theorem runFallback_wellFormed {s : Source} {table : String} {sent : List String} {p : Page}
    (h : (q.runFallback s table).result sent = .ok (some p)) : p.WellFormed q := by
  obtain ⟨raw, -, hp⟩ := runFallback_eq_ok_iff.mp h
  obtain ⟨rows, -, hp⟩ := Option.bind_eq_some_iff.mp hp
  exact finalize?_wellFormed hn hp

end Pages

/-- The run reads raw rows that have no page. -/
def BreaksOff (q : Query) (s : Source) (table : String) (sent : Nat) : Prop :=
  ∃ schema raw, s.schema = .ok schema ∧ q.check schema table = .ok () ∧
    (q.path s.dialect).isFallback = true ∧ s.reply sent (q.rawSql s.dialect table) = .ok raw ∧
    q.LosesPage raw

section Runs

variable {s : Source} {table : String} {sent : List String}

theorem run_wellFormed (hn : q.outputColumns.Nodup) {p : Page}
    (h : (q.run s table).result sent = .ok (some p)) : p.WellFormed q := by
  unfold run at h
  split at h
  · exact runFallback_wellFormed hn h
  · obtain ⟨_, hr, hp⟩ := Session.result_map_eq_ok_iff.mp h
    obtain rfl := Option.some.inj hp
    exact runNative_wellFormed hn hr

theorem run_eq_none_iff {scope : Scope} (hc : q.checkIn scope = .ok ()) :
    (q.run s table).result sent = .ok none ↔
      (q.path s.dialect).isFallback = true ∧
        ∃ raw, s.reply sent.length (q.rawSql s.dialect table) = .ok raw ∧ q.LosesPage raw := by
  unfold run
  split
  · next hp => simp only [runFallback_eq_ok_iff, losesPage_iff hc, hp, true_and]
  · next hp => simp [Session.result_map_eq_ok_iff, hp]

theorem exists_checkIn_of_check {schema : Schema} (h : q.check schema table = .ok ()) :
    ∃ scope, q.checkIn scope = .ok () := by
  have hc := except_mapError_eq_ok.mp h
  split at hc
  · split at hc
    · exact exists_checkIn_of_checkTable hc
    · exact exists_checkIn_of_checkSchema hc
  · exact exists_checkIn_of_checkSchema hc

theorem execute_wellFormed {p : Page} (h : (q.execute s table).result sent = .ok (some p)) :
    p.WellFormed q := by
  obtain ⟨schema, -, hc, hr⟩ := execute_eq_ok_iff.mp h
  obtain ⟨scope, hin⟩ := exists_checkIn_of_check hc
  obtain ⟨-, -, -, -, hn, -⟩ := checkIn_eq_ok_iff.mp hin
  exact run_wellFormed hn hr

theorem execute_eq_none_iff :
    (q.execute s table).result sent = .ok none ↔ q.BreaksOff s table sent.length := by
  rw [execute_eq_ok_iff, BreaksOff]
  constructor
  · rintro ⟨schema, hs, hc, hr⟩
    obtain ⟨scope, hin⟩ := exists_checkIn_of_check hc
    obtain ⟨hp, raw, hr⟩ := (run_eq_none_iff hin).mp hr
    exact ⟨schema, raw, hs, hc, hp, hr⟩
  · rintro ⟨schema, raw, hs, hc, hp, hr⟩
    obtain ⟨scope, hin⟩ := exists_checkIn_of_check hc
    exact ⟨schema, hs, hc, (run_eq_none_iff hin).mpr ⟨hp, raw, hr⟩⟩

/-- Regular raw rows have a page. -/
theorem not_breaksOff_of_regular {raw : List Row} {n : Nat}
    (hr : s.reply n (q.rawSql s.dialect table) = .ok raw) (h : q.Regular raw) :
    ¬q.BreaksOff s table n := by
  rintro ⟨schema, raw', -, -, -, hr', hl⟩
  obtain rfl := Except.ok.inj (hr.symm.trans hr')
  exact h.not_losesPage hl

end Runs

end Query

namespace Outcome

variable {q : Query} {run : Except Failure (Option Page)}

theorem wellShaped_of_ofRun? {o : Outcome} (ho : ofRun? run = some o)
    (h : ∀ p, run = .ok (some p) → p.WellFormed q) : o.WellShaped q := by
  rcases run with f | ⟨⟩ | p
  · obtain rfl := Option.some.inj ho
    exact .inl ⟨f.text, rfl⟩
  · cases ho
  · obtain rfl := Option.some.inj ho
    exact .inr ⟨p, h p rfl, rfl⟩

theorem ofRun?_eq_none_iff : ofRun? run = none ↔ run = .ok none := by
  rcases run with f | ⟨⟩ | p <;> simp [ofRun?]

end Outcome

/-- Every answer is a failure with its message only or a success with a page in shape, on both paths
and whatever the source replies. There is one unless the run reads raw rows of which one has its week
before the calendar, or a window leads to a place that is no word, or a sort breaks off. -/
theorem service_answers_well_shaped (s : Service) (id table : String) (q : Query) :
    (∀ o, (s.execute id table q).1 = some o → o.WellShaped q) ∧
      ((s.execute id table q).1 = none ↔
        ∃ c, (s.connect id).1 = .ok c ∧ q.BreaksOff c.source table c.sent.length) ∧
      ∀ c raw, (s.connect id).1 = .ok c →
        c.source.reply c.sent.length (q.rawSql c.source.dialect table) = .ok raw → q.Regular raw →
          (s.execute id table q).1 ≠ none := by
  rw [Service.execute_fst, ne_eq, Outcome.ofRun?_eq_none_iff]
  cases (s.connect id).1 with
  | error f =>
      refine ⟨fun o ho => Outcome.wellShaped_of_ofRun? ho fun p hp => ?_, ?_, nofun⟩
      · cases hp
      · simp
  | ok c =>
      refine ⟨fun o ho => ?_, ?_, fun c' raw hc hr hraw => ?_⟩
      · exact Outcome.wellShaped_of_ofRun? ho fun p => Query.execute_wellFormed
      · simp [Query.execute_eq_none_iff]
      · obtain rfl := Except.ok.inj hc
        exact mt Query.execute_eq_none_iff.mp (Query.not_breaksOff_of_regular hr hraw)

def medianByWeek : Query where
  join := []
  select := [.aggregate ⟨"amount", .median, "mid", none⟩]
  groupBy := [.bucketed "day" .week]
  filter := []
  having := []
  orderBy := []
  limit := none

def firstDaySource : Source :=
  .ofAnswers .sqlite
    (.ok ⟨[⟨"orders", [⟨"day", "TEXT", true⟩, ⟨"amount", "REAL", true⟩]⟩], []⟩)
    [.ok [⟨[("amount", .int 1), ("day", .str "-262143-01-01")]⟩]]

theorem firstDay_unanswered :
    (((Service.start (.ofFiles ⟨[], []⟩)).attach "orders" firstDaySource).execute "orders" "orders"
      medianByWeek).1 = none := by
  rfl

end TableQuery
