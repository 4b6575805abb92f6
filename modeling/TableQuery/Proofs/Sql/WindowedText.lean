import TableQuery.Proofs.Validation.SourceColumns

namespace TableQuery

open Sql

namespace Sql

def Ending.orderText (d : Dialect) (e : Ending) : String :=
  if e.orderBy.isEmpty then ""
  else " ORDER BY " ++ ", ".intercalate (e.orderBy.map fun (target, direction) =>
    sortKey d (target.text d) direction)

def Ending.limitText (e : Ending) : String :=
  match e.limit with
  | some n => " LIMIT " ++ Nat.repr n
  | none => ""

/-- All columns that the window reads, as its value, for its partitions and for its order, are
selected by the base rows. -/
def WindowCall.ReadsFrom (base : Select) (w : WindowCall) : Prop :=
  w.value.ReadsOnly base.Emits ∧ (∀ c ∈ w.partitionBy, base.Emits c) ∧
    ∀ t ∈ w.orderBy, base.Emits t.1

theorem intercalate_clause {front : List String} (hf : front ≠ []) (keyword separator : String)
    (parts : List String) :
    " ".intercalate (front ++ clause keyword separator parts) =
      " ".intercalate front ++
        if parts.isEmpty then "" else " " ++ keyword ++ " " ++ separator.intercalate parts := by
  cases parts with
  | nil => simp [clause]
  | cons part rest =>
      rw [clause, String.intercalate_append_of_ne_nil hf (List.cons_ne_nil _ _),
        String.intercalate_singleton]
      · simp [String.append_assoc]
      · exact List.cons_ne_nil _ _

theorem Ending.intercalate_parts (d : Dialect) (e : Ending) {front : List String}
    (hf : front ≠ []) :
    " ".intercalate (front ++ e.parts d) = " ".intercalate front ++ e.orderText d ++ e.limitText := by
  obtain ⟨orderBy, limit⟩ := e
  have horder := intercalate_clause hf "ORDER BY" ", "
    (orderBy.map fun (target, direction) => sortKey d (target.text d) direction)
  have hkeyword : " " ++ "ORDER BY" ++ " " = " ORDER BY " := by decide
  rw [hkeyword, List.isEmpty_map] at horder
  cases limit with
  | none =>
      simpa [parts, orderText, limitText] using horder
  | some n =>
      have hlimit : " LIMIT " = " " ++ "LIMIT " := by decide
      rw [parts, ← List.append_assoc, String.intercalate_append_of_ne_nil (by simp [hf])
        (List.cons_ne_nil _ _), horder, String.intercalate_singleton, orderText, limitText, hlimit]
      simp only [String.append_assoc]

theorem Statement.text_windowed (d : Dialect) (base : Select) (windows : List (WindowCall × String))
    (ending : Ending) :
    (windowed base windows ending).text d =
      "WITH dsl_base AS (" ++ base.text d ++ ") SELECT dsl_base.*, " ++
        ", ".intercalate (windows.map fun (w, label) => w.text d ++ " AS " ++ d.quoteName label) ++
        " FROM dsl_base" ++ ending.orderText d ++ ending.limitText := by
  let list := ", ".intercalate (windows.map fun (w, label) => labelled d (w.text d) label)
  have hparts : (windowed base windows ending).parts d =
      ["WITH " ++ baseRows ++ " AS (" ++ base.text d ++ ")", "SELECT " ++ baseRows ++ ".*, " ++ list,
        "FROM " ++ baseRows] ++ ending.parts d := rfl
  rw [text, hparts, ending.intercalate_parts d (List.cons_ne_nil _ _)]
  congr 2
  apply String.toList_inj.mp
  simp [baseRows, list, labelled, String.intercalate_cons_cons]

end Sql

namespace Query

variable (q : Query)

def withoutWindows : Query := { q with select := q.baseSelect, orderBy := [] }

theorem windows_withoutWindows : q.withoutWindows.windows = [] := by
  rw [windows, List.filterMap_eq_nil_iff]
  intro f hf
  obtain ⟨-, hw⟩ := mem_baseSelect.mp hf
  cases f with
  | window w => cases hw
  | _ => rfl

theorem baseSelect_withoutWindows : q.withoutWindows.baseSelect = q.baseSelect := by
  change q.baseSelect.filter _ = q.baseSelect
  rw [List.filter_eq_self]
  intro f hf
  simp [(mem_baseSelect.mp hf).2]

theorem aggregates_withoutWindows : q.withoutWindows.aggregates = q.aggregates := by
  rw [aggregates_eq, baseSelect_withoutWindows, ← aggregates_eq]

/-- A window selects no field under its own name, so that the same buckets are added. -/
theorem implicitBuckets_withoutWindows :
    q.withoutWindows.implicitBuckets = q.implicitBuckets := by
  have hselects (field : String) :
      q.baseSelect.any (SelectField.selects field) = q.select.any (SelectField.selects field) := by
    rw [baseSelect, List.any_filter]
    congr 1
    funext f
    cases f <;> simp [SelectField.isWindow, SelectField.selects]
  simp only [implicitBuckets, withoutWindows, hselects]
  rfl

theorem outputExpr_withoutWindows (name : String) :
    q.withoutWindows.outputExpr name = q.outputExpr name := by
  simp only [outputExpr, aggregateLabelled, fieldNamed, aggregates_withoutWindows,
    baseSelect_withoutWindows, implicitBuckets_withoutWindows]
  rfl

theorem selectItems_withoutWindows : q.withoutWindows.selectItems = q.selectItems := by
  have hitem : q.withoutWindows.selectItem = q.selectItem := by
    funext f
    cases f <;> rfl
  rw [selectItems, selectItems, implicitBuckets_withoutWindows, baseSelect_withoutWindows, hitem]

theorem body_withoutWindows (table : String) : q.withoutWindows.body table = q.body table := by
  simp only [body, selectItems_withoutWindows, outputExpr_withoutWindows]
  rfl

theorem statement_withoutWindows (table : String) :
    q.withoutWindows.statement table false = .plain (q.body table) ⟨[], none⟩ := by
  have hw : q.withoutWindows.hasWindows = false := by
    simp [hasWindows, windows_withoutWindows]
  rw [statement, hw, body_withoutWindows]
  rfl

theorem sql_withoutWindows (d : Dialect) (table : String) :
    q.withoutWindows.sql d table false = (q.body table).text d := by
  rw [sql, statement_withoutWindows, Statement.text, Statement.parts, Ending.parts, Select.text]
  simp [clause]

end Query

/-- A query with windows selects them over the statement of the query without them, which has no
order and no limit of its own; the order and the limit of the query come last. If the query is
accepted, the windows read nothing but columns that this statement selects. -/
theorem windowed_statement_wraps_base {q : Query} (hw : q.hasWindows = true) (d : Dialect)
    (table : String) (capped : Bool) :
    q.sql d table capped =
        "WITH dsl_base AS (" ++ q.withoutWindows.sql d table false ++ ") SELECT dsl_base.*, " ++
          ", ".intercalate (q.windows.map fun w =>
            (Query.windowCall w).text d ++ " AS " ++ d.quoteName w.label) ++
          " FROM dsl_base" ++ (q.ending q.windowedTarget capped).orderText d ++
          (q.ending q.windowedTarget capped).limitText ∧
      ∀ s, q.checkIn s = .ok () → ∀ w ∈ q.windows,
        (Query.windowCall w).ReadsFrom (q.withoutWindows.statement table false).body := by
  constructor
  · rw [q.sql_withoutWindows, Query.sql, Query.statement, if_pos hw, Statement.text_windowed,
      List.map_map]
    rfl
  · intro s hc w hm
    obtain ⟨-, -, -, -, -, -, hwindows, -⟩ := Query.checkIn_eq_ok_iff.mp hc
    rw [q.statement_withoutWindows]
    exact Query.inScope_windowCall (hwindows w hm) table

def revenueByMonth : Query where
  join := []
  select := [.column "region", .aggregate ⟨"amount", .sum, "revenue", none⟩,
    .window ⟨.lag, some "revenue", "before", ["region"], [⟨"day", .asc⟩], none, none⟩,
    .window ⟨.pctOfTotal, some "revenue", "share", ["day"], [], none, none⟩]
  groupBy := [.plain "region", .bucketed "day" .month]
  filter := []
  having := [⟨"revenue", .gt, some (.int 0)⟩]
  orderBy := [⟨"share", .desc⟩]
  limit := some 5

theorem revenueByMonth_wraps_base :
    let sales : Table :=
      ⟨"sales", [⟨"region", "TEXT", true⟩, ⟨"day", "TEXT", true⟩, ⟨"amount", "REAL", true⟩]⟩
    let calls := revenueByMonth.windows.map fun w =>
      (Query.windowCall w).text .postgres ++ " AS " ++ Dialect.quoteName .postgres w.label
    let ending := revenueByMonth.ending revenueByMonth.windowedTarget true
    revenueByMonth.hasWindows = true ∧ revenueByMonth.checkIn ⟨sales, []⟩ = .ok () ∧
      calls =
        ["LAG(dsl_base.\"revenue\", 1) OVER (PARTITION BY dsl_base.\"region\" " ++
            "ORDER BY (dsl_base.\"day\" IS NULL), dsl_base.\"day\" ASC) AS \"before\"",
          "CAST(dsl_base.\"revenue\" AS DOUBLE PRECISION) / NULLIF(SUM(CAST(dsl_base.\"revenue\" " ++
            "AS DOUBLE PRECISION)) OVER (PARTITION BY dsl_base.\"day\"), 0) AS \"share\""] ∧
      revenueByMonth.sql .postgres "sales" true =
        "WITH dsl_base AS (" ++ revenueByMonth.withoutWindows.sql .postgres "sales" false ++
          ") SELECT dsl_base.*, " ++ ", ".intercalate calls ++ " FROM dsl_base" ++
          ending.orderText .postgres ++ ending.limitText ∧
      ending.limitText = " LIMIT 5" ∧
      ∀ w ∈ revenueByMonth.windows,
        (Query.windowCall w).ReadsFrom (revenueByMonth.withoutWindows.statement "sales" false).body := by
  intro sales calls ending
  have hw : revenueByMonth.hasWindows = true := rfl
  have hc : revenueByMonth.checkIn ⟨sales, []⟩ = .ok () := rfl
  obtain ⟨htext, hreads⟩ := windowed_statement_wraps_base hw .postgres "sales" true
  exact ⟨hw, hc, by decide +kernel, htext, by decide +kernel, hreads _ hc⟩

end TableQuery
