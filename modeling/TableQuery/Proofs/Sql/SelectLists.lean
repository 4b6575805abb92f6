import TableQuery.Execution.Plan
import TableQuery.Proofs.Sql.SelectedColumns
import TableQuery.Validation.Query

namespace TableQuery

open Sql

namespace Sql

def termOpenings : List Char :=
  ['"', '`', '*', '(', 'd', 's', 'A', 'C', 'D', 'M', 'P', 'S', 'T']

def OpensWith (openings : List Char) (s : String) : Prop := ∃ c ∈ openings, s.toList.head? = some c

def Select.listText (d : Dialect) (s : Select) : String :=
  ", ".intercalate (s.items.map (SelectItem.text d))

def Statement.body : Statement → Select
  | .plain body _ => body
  | .windowed base _ _ => base

/-- Each SELECT of a statement: what stands before it, and its list. -/
def Statement.selects (d : Dialect) : Statement → List (String × String)
  | .plain body _ => [("", body.listText d)]
  | .windowed base windows _ =>
    [("WITH " ++ baseRows ++ " AS (", base.listText d),
      ("WITH " ++ baseRows ++ " AS (" ++ base.text d ++ ") ", baseRows ++ ".*, " ++
        ", ".intercalate (windows.map fun (w, label) => labelled d (w.text d) label))]

def countedRows : String := "COUNT(*) AS total_rows"

def beforeCounted : String := "SELECT COUNT(*) AS total_rows FROM ("

def Statement.countedSelects (d : Dialect) (s : Statement) : List (String × String) :=
  ("", countedRows) :: (s.selects d).map fun p => (beforeCounted ++ p.1, p.2)

/-- Behind `before`, SELECT is followed by FROM with nothing but blanks between them. -/
def SelectsNothing (before sql : String) : Prop :=
  ∃ blanks rest, (∀ c ∈ blanks.toList, c = ' ') ∧
    sql = before ++ "SELECT" ++ blanks ++ "FROM" ++ rest

section Openings

variable {openings : List Char}

-- over the openings, not over all characters
instance (s : String) : Decidable (OpensWith openings s) :=
  List.decidableBEx (fun c => s.toList.head? = some c) openings

theorem OpensWith.append {s : String} (h : OpensWith openings s) (t : String) :
    OpensWith openings (s ++ t) := by
  obtain ⟨c, hc, hs⟩ := h
  exact ⟨c, hc, by rw [String.toList_append, List.head?_append, hs, Option.some_or]⟩

theorem OpensWith.ne_empty {s : String} (h : OpensWith openings s) : s ≠ "" := by
  rintro rfl
  obtain ⟨c, -, hc⟩ := h
  cases hc

theorem OpensWith.intercalate {s : String} (h : OpensWith openings s) (separator : String)
    (rest : List String) : OpensWith openings (separator.intercalate (s :: rest)) := by
  cases rest with
  | nil => rwa [String.intercalate_singleton]
  | cons t rest =>
      rw [String.intercalate_cons_cons]
      exact (h.append _).append _

theorem OpensWith.mono {openings' : List Char} {s : String} (h : OpensWith openings s)
    (hs : openings ⊆ openings') : OpensWith openings' s := by
  obtain ⟨c, hc, hh⟩ := h
  exact ⟨c, hs hc, hh⟩

theorem opensWith_quoteName (d : Dialect) (name : String) :
    OpensWith termOpenings (d.quoteName name) := by
  refine ⟨d.quoteMark, ?_, by simp [Dialect.quoteName, quoteChars]⟩
  cases d <;> decide

theorem opensWith_column (d : Dialect) (c : ColumnRef) : OpensWith termOpenings (c.text d) := by
  cases c with
  | star => exact (by decide : OpensWith termOpenings "*")
  | bare column => exact opensWith_quoteName d column
  | qualified table column => exact ((opensWith_quoteName d table).append _).append _
  | ofBaseRows column => exact .append (.append (by decide) _) _

theorem opensWith_truncate (d : Dialect) (b : Bucket) (e : String) :
    OpensWith termOpenings (d.truncate b e) := by
  cases d with
  | postgres => exact .append (.append (.append (.append (by decide) _) _) _) _
  | sqlite =>
      cases b with
      | quarter =>
          exact .append (.append (.append (.append (.append (.append (by decide) _) _) _) _) _) _
      | _ => exact .append (.append (by decide) _) _
  | mysql =>
      cases b with
      | week | quarter => exact .append (.append (.append (.append (by decide) _) _) _) _
      | _ => exact .append (.append (by decide) _) _

theorem opensWith_source {e : Expr} {c : ColumnRef} (h : e.source? = some c) (d : Dialect) :
    OpensWith termOpenings (e.text d) := by
  cases e with
  | column c => exact opensWith_column d c
  | truncated b e => exact opensWith_truncate d b _
  | _ => cases h

theorem opensWith_percentile (d : Dialect) (fraction : Float) (e : String) :
    OpensWith termOpenings (d.percentile fraction e) :=
  .append (.append (.append (.append (by decide) _) _) _) _

theorem opensWith_aggregate {d : Dialect} {a : AggregateField} {e text : String}
    (h : d.aggregate? a e = some text) : OpensWith termOpenings text := by
  unfold Dialect.aggregate? at h
  split at h
  · cases h
  · split at h
    case h_7 | h_8 | h_9 | h_10 =>
      obtain ⟨x, -, rfl⟩ := Option.map_eq_some_iff.mp h
      exact opensWith_percentile d x e
    all_goals
      obtain rfl := Option.some.inj h
      exact .append (.append (by decide) _) _

end Openings

theorem blanks_append_ne {blanks : List Char} (hblank : ∀ c ∈ blanks, c = ' ') {c f : Char}
    (hc : c ≠ ' ') (hf : f ≠ ' ') (hcf : c ≠ f) (fs cs : List Char) :
    blanks ++ f :: fs ≠ ' ' :: c :: cs := by
  intro he
  cases blanks with
  | nil => exact hf (List.cons.inj he).1
  | cons b bs =>
      have ht : bs ++ f :: fs = c :: cs := (List.cons.inj he).2
      cases bs with
      | nil => exact hcf (List.cons.inj ht).1.symm
      | cons b' bs =>
          have hb : b' = ' ' := hblank b' (by simp)
          exact hc ((List.cons.inj ht).1.symm.trans hb)

/-- A list that opens with neither a blank nor the first letter of FROM stands between SELECT and
FROM. -/
theorem not_selectsNothing {list : String} (h : OpensWith openings list) (hb : ' ' ∉ openings)
    (hF : 'F' ∉ openings) (before tail : String) :
    ¬SelectsNothing before (before ++ "SELECT " ++ list ++ tail) := by
  rintro ⟨blanks, rest, hblank, he⟩
  obtain ⟨c, hc, hs⟩ := h
  obtain ⟨cs, hl⟩ := List.head?_eq_some_iff.mp hs
  have hchars : blanks.toList ++ 'F' :: ('R' :: 'O' :: 'M' :: rest.toList) =
      ' ' :: c :: (cs ++ tail.toList) := by
    simpa [hl] using (congrArg String.toList he).symm
  exact blanks_append_ne hblank (ne_of_mem_of_not_mem hc hb) (by decide)
    (ne_of_mem_of_not_mem hc hF) _ _ hchars

theorem selectsNothing_of_empty (before tail : String) :
    SelectsNothing before (before ++ "SELECT " ++ "" ++ " FROM " ++ tail) := by
  refine ⟨"  ", " " ++ tail, by simp, ?_⟩
  apply String.toList_inj.mp
  simp

theorem selectsNothing_iff {before list tail : String}
    (h : list = "" ∨ OpensWith ('N' :: termOpenings) list) :
    SelectsNothing before (before ++ "SELECT " ++ list ++ " FROM " ++ tail) ↔ list = "" := by
  constructor
  · intro hn
    refine h.resolve_right fun ho => ?_
    rw [String.append_assoc] at hn
    exact not_selectsNothing ho (by decide) (by decide) _ _ hn
  · rintro rfl
    exact selectsNothing_of_empty _ _

theorem Select.parts_append_eq (d : Dialect) (s : Select) (more : List String) :
    ∃ tail, " ".intercalate (s.parts d ++ more) =
      "SELECT " ++ s.listText d ++ " FROM " ++ tail := by
  let source := " ".intercalate (d.quoteName s.table :: s.joins.map (JoinClause.text d))
  obtain ⟨clauses, hc⟩ : ∃ clauses, s.parts d = ("SELECT " ++ s.listText d) :: ("FROM " ++ source) ::
      clauses := ⟨_, by rw [parts, fromText, String.intercalate_cons_append]; rfl⟩
  refine ⟨" ".intercalate (source :: (clauses ++ more)), ?_⟩
  rw [hc, List.cons_append, List.cons_append, String.intercalate_cons_cons,
    String.intercalate_cons_append]
  apply String.toList_inj.mp
  simp

theorem Select.text_eq (d : Dialect) (s : Select) :
    ∃ tail, s.text d = "SELECT " ++ s.listText d ++ " FROM " ++ tail := by
  obtain ⟨tail, ht⟩ := s.parts_append_eq d []
  rw [List.append_nil] at ht
  exact ⟨tail, ht⟩

theorem Statement.text_eq_of_mem_selects {d : Dialect} {s : Statement} {p : String × String}
    (hp : p ∈ s.selects d) : ∃ tail, s.text d = p.1 ++ "SELECT " ++ p.2 ++ " FROM " ++ tail := by
  cases s with
  | plain body ending =>
      obtain rfl := List.mem_singleton.mp hp
      obtain ⟨tail, ht⟩ := body.parts_append_eq d (ending.parts d)
      exact ⟨tail, by rw [text, parts, ht, String.empty_append]⟩
  | windowed base windows ending =>
      let list := ", ".intercalate (windows.map fun (w, label) => labelled d (w.text d) label)
      let source := " ".intercalate (baseRows :: ending.parts d)
      have hs : (Statement.windowed base windows ending).text d =
          "WITH " ++ baseRows ++ " AS (" ++ base.text d ++ ") " ++ "SELECT " ++
            (baseRows ++ ".*, " ++ list) ++ " FROM " ++ source := by
        rw [text, parts, String.intercalate_cons_cons, String.intercalate_cons_cons,
          String.intercalate_cons_append]
        apply String.toList_inj.mp
        simp [list, source]
      rcases List.mem_cons.mp hp with rfl | hp
      · obtain ⟨tail, ht⟩ := base.text_eq d
        refine ⟨tail ++ ") SELECT " ++ (baseRows ++ ".*, " ++ list) ++ " FROM " ++ source, ?_⟩
        rw [hs, ht]
        apply String.toList_inj.mp
        simp
      · obtain rfl := List.mem_singleton.mp hp
        exact ⟨source, hs⟩

theorem Statement.countText_eq (d : Dialect) (s : Statement) :
    s.countText d = beforeCounted ++ s.text d ++ ") AS dsl_count" := rfl

theorem beforeCounted_eq : beforeCounted = "" ++ "SELECT " ++ countedRows ++ " FROM " ++ "(" := by
  decide

theorem Statement.text_eq_of_mem_countedSelects {d : Dialect} {s : Statement} {p : String × String}
    (hp : p ∈ s.countedSelects d) :
    ∃ tail, s.countText d = p.1 ++ "SELECT " ++ p.2 ++ " FROM " ++ tail := by
  rw [countText_eq]
  rcases List.mem_cons.mp hp with rfl | hp
  · refine ⟨"(" ++ (s.text d ++ ") AS dsl_count"), ?_⟩
    rw [beforeCounted_eq, String.append_assoc, String.append_assoc]
  · obtain ⟨inner, hi, rfl⟩ := List.mem_map.mp hp
    obtain ⟨tail, ht⟩ := text_eq_of_mem_selects hi
    refine ⟨tail ++ ") AS dsl_count", ?_⟩
    rw [ht]
    simp only [String.append_assoc]

theorem exists_selectsNothing_iff {selects : List (String × String)} {sql : String}
    (ht : ∀ p ∈ selects, ∃ tail, sql = p.1 ++ "SELECT " ++ p.2 ++ " FROM " ++ tail)
    (ho : ∀ p ∈ selects, p.2 = "" ∨ OpensWith ('N' :: termOpenings) p.2) :
    (∃ p ∈ selects, SelectsNothing p.1 sql) ↔ "" ∈ selects.map Prod.snd := by
  have hone {p : String × String} (hp : p ∈ selects) : SelectsNothing p.1 sql ↔ p.2 = "" := by
    obtain ⟨tail, rfl⟩ := ht p hp
    exact selectsNothing_iff (ho p hp)
  rw [List.mem_map]
  exact exists_congr fun p => and_congr_right fun hp => hone hp

namespace Statement

variable {d : Dialect} {s : Statement}

/-- The other lists of a statement name the base rows' columns or count them. -/
theorem opensWith_of_mem_selects
    (h : s.body.listText d = "" ∨ OpensWith ('N' :: termOpenings) (s.body.listText d))
    {p : String × String} (hp : p ∈ s.selects d) :
    p.2 = "" ∨ OpensWith ('N' :: termOpenings) p.2 := by
  cases s with
  | plain body ending =>
      obtain rfl := List.mem_singleton.mp hp
      exact h
  | windowed base windows ending =>
      rcases List.mem_cons.mp hp with rfl | hp
      · exact h
      · obtain rfl := List.mem_singleton.mp hp
        exact .inr (.append (.append (by decide) _) _)

theorem empty_mem_selects_iff :
    "" ∈ (s.selects d).map Prod.snd ↔ s.body.listText d = "" := by
  cases s with
  | plain body ending =>
      rw [selects, List.map_singleton, List.mem_singleton]
      exact eq_comm
  | windowed base windows ending =>
      have hb (list : String) : "" ≠ baseRows ++ ".*, " ++ list :=
        (OpensWith.append (.append (by decide : OpensWith ['d'] baseRows) _) _).ne_empty.symm
      simp only [selects, List.map_cons, List.map_nil, List.mem_cons, hb, List.not_mem_nil, or_false]
      exact eq_comm

theorem selectsNothing_iff
    (h : s.body.listText d = "" ∨ OpensWith ('N' :: termOpenings) (s.body.listText d)) :
    ((∃ p ∈ s.selects d, SelectsNothing p.1 (s.text d)) ↔ s.body.listText d = "") ∧
      ((∃ p ∈ s.countedSelects d, SelectsNothing p.1 (s.countText d)) ↔
        s.body.listText d = "") := by
  constructor
  · rw [exists_selectsNothing_iff (fun _ hp => text_eq_of_mem_selects hp)
      (fun _ hp => opensWith_of_mem_selects h hp), empty_mem_selects_iff]
  · rw [exists_selectsNothing_iff (fun _ hp => text_eq_of_mem_countedSelects hp),
      ← empty_mem_selects_iff (s := s)]
    · simp [countedSelects, countedRows, Function.comp_def]
    · intro p hp
      rcases List.mem_cons.mp hp with rfl | hp
      · exact .inr (by decide)
      · obtain ⟨inner, hi, rfl⟩ := List.mem_map.mp hp
        exact opensWith_of_mem_selects (p := inner) h hi

end Statement

end Sql

namespace Query

variable {q : Query}

/-- Nothing but windows is selected, and no bucket is added. -/
def SelectsWindowsOnly (q : Query) : Prop :=
  (∀ f ∈ q.select, f.isWindow = true) ∧ q.bucketedFields = []

theorem mem_selectItems {i : SelectItem} (hi : i ∈ q.selectItems) :
    (∃ c, i.expr.source? = some c) ∨ ∃ a ∈ q.aggregates, i = ⟨aggregateExpr a, some a.label⟩ := by
  rcases List.mem_append.mp hi with hi | hi
  · obtain ⟨b, -, rfl⟩ := List.mem_map.mp hi
    exact .inl ⟨_, rfl⟩
  · obtain ⟨f, hf, hi⟩ := List.mem_filterMap.mp hi
    cases f with
    | column field =>
        obtain ⟨label, hl, -⟩ := q.exists_columnItem field
        obtain rfl := Option.some.inj (hl.symm.trans hi)
        exact .inl ⟨_, q.source?_fieldExpr field⟩
    | aggregate a =>
        obtain rfl := Option.some.inj hi
        exact .inr ⟨a, mem_aggregates.mpr hf, rfl⟩
    | window w => cases hi

theorem selectItems_eq_nil_iff : q.selectItems = [] ↔ q.SelectsWindowsOnly := by
  rw [← List.map_eq_nil_iff (f := SelectItem.name), selectItems_names, baseColumns,
    List.append_eq_nil_iff, List.map_eq_nil_iff, List.map_eq_nil_iff, SelectsWindowsOnly]
  have hb : q.baseSelect = [] ↔ ∀ f ∈ q.select, f.isWindow = true := by
    simp [baseSelect, List.filter_eq_nil_iff]
  rw [hb, and_comm]
  refine and_congr_right fun hw => ?_
  have hi : q.implicitBuckets = q.bucketedFields := by
    rw [implicitBuckets, List.filter_eq_self]
    intro b _
    rw [Bool.not_eq_true', List.any_eq_false]
    intro f hf
    cases f with
    | window w => simp [SelectField.selects]
    | _ => cases hw _ hf
  rw [hi]

theorem opensWith_of_mem_selectItems {i : SelectItem} (hi : i ∈ q.selectItems) (d : Dialect) :
    OpensWith ('N' :: termOpenings) (i.text d) := by
  have he : OpensWith ('N' :: termOpenings) (i.expr.text d) := by
    rcases mem_selectItems hi with ⟨c, hc⟩ | ⟨a, -, rfl⟩
    · exact (opensWith_source hc d).mono (List.subset_cons_self _ _)
    · change OpensWith _ ((d.aggregate? a _).getD Expr.placeholder)
      cases ha : d.aggregate? a ((Expr.ofField a.field).text d) with
      | none => exact (by decide : OpensWith ('N' :: termOpenings) Expr.placeholder)
      | some text => exact (opensWith_aggregate ha).mono (List.subset_cons_self _ _)
  rw [SelectItem.text]
  split
  · exact he
  · exact (he.append _).append _

theorem listText_opens (q : Query) (d : Dialect) (table : String) :
    q.selectItems = [] ∧ (q.body table).listText d = "" ∨
      q.selectItems ≠ [] ∧ OpensWith ('N' :: termOpenings) ((q.body table).listText d) := by
  cases hs : q.selectItems with
  | nil => exact .inl ⟨rfl, by rw [Select.listText, body, hs]; rfl⟩
  | cons i rest =>
      refine .inr ⟨List.cons_ne_nil _ _, ?_⟩
      rw [Select.listText, body, hs, List.map_cons]
      exact (opensWith_of_mem_selectItems (hs ▸ List.mem_cons_self) d).intercalate _ _

theorem body_statement (q : Query) (table : String) (capped : Bool) :
    (q.statement table capped).body = q.body table := by
  unfold statement
  split <;> rfl

theorem listText_eq_empty_iff (q : Query) (d : Dialect) (table : String) :
    (q.body table).listText d = "" ↔ q.SelectsWindowsOnly := by
  rw [← selectItems_eq_nil_iff]
  rcases q.listText_opens d table with ⟨hs, ht⟩ | ⟨hs, ht⟩
  · simp [hs, ht]
  · simp [hs, ht.ne_empty]

theorem selectsNothing_statement_iff (q : Query) (d : Dialect) (table : String) (capped : Bool) :
    ((∃ p ∈ (q.statement table capped).selects d,
        SelectsNothing p.1 ((q.statement table capped).text d)) ↔ q.SelectsWindowsOnly) ∧
      ((∃ p ∈ (q.statement table capped).countedSelects d,
        SelectsNothing p.1 ((q.statement table capped).countText d)) ↔ q.SelectsWindowsOnly) := by
  have h := Statement.selectsNothing_iff (d := d) (s := q.statement table capped)
  rw [body_statement, listText_eq_empty_iff] at h
  apply h
  rcases q.listText_opens d table with ⟨hs, -⟩ | ⟨-, ht⟩
  · exact .inl (selectItems_eq_nil_iff.mp hs)
  · exact .inr ht

theorem rawFields_ne_nil (q : Query) : q.rawFields ≠ [] := by
  rw [rawFields]
  split
  · exact List.cons_ne_nil _ _
  · next h =>
      obtain ⟨field, hf⟩ := List.exists_mem_of_ne_nil _ (mt List.isEmpty_iff.mpr h)
      exact List.ne_nil_of_mem (List.mem_eraseDups.mpr hf)

theorem not_selectsWindowsOnly_rawQuery (q : Query) : ¬q.rawQuery.SelectsWindowsOnly := by
  rintro ⟨hw, -⟩
  obtain ⟨field, hf⟩ := List.exists_mem_of_ne_nil _ q.rawFields_ne_nil
  cases hw _ (List.mem_map_of_mem (f := SelectField.column) hf)

end Query

/-- A select list is empty exactly if its query selects windows only and groups by no bucket. Then,
and only then, a SELECT is followed by FROM at once in its statement, with or without the cap, and
in the statement that counts its rows. The raw rows are never fetched so. -/
theorem nothing_selected_iff (q : Query) (d : Dialect) (table : String) :
    ((q.body table).items = [] ↔ q.SelectsWindowsOnly) ∧
      (∀ capped,
        (∃ p ∈ (q.statement table capped).selects d, SelectsNothing p.1 (q.sql d table capped)) ↔
          q.SelectsWindowsOnly) ∧
      ((∃ p ∈ (q.statement table false).countedSelects d, SelectsNothing p.1 (q.countSql d table)) ↔
        q.SelectsWindowsOnly) ∧
      (q.rawQuery.body table).items ≠ [] ∧
      ¬∃ p ∈ (q.rawQuery.statement table false).selects d, SelectsNothing p.1 (q.rawSql d table) := by
  have hraw := q.not_selectsWindowsOnly_rawQuery
  refine ⟨Query.selectItems_eq_nil_iff, fun capped => ?_, ?_, ?_, ?_⟩
  · exact (q.selectsNothing_statement_iff d table capped).1
  · exact (q.selectsNothing_statement_iff d table false).2
  · exact mt Query.selectItems_eq_nil_iff.mp hraw
  · exact mt (q.rawQuery.selectsNothing_statement_iff d table false).1.mp hraw

def rowNumbers : Query where
  join := []
  select := [.window ⟨.rowNumber, none, "rn", [], [], none, none⟩]
  groupBy := []
  filter := []
  having := []
  orderBy := []
  limit := none

/-- The query is accepted, and its table expression selects nothing. -/
theorem rowNumbers_select_nothing :
    rowNumbers.checkSchema ⟨[⟨"orders", [⟨"region", "TEXT", true⟩]⟩], []⟩ "orders" = .ok () ∧
      (rowNumbers.body "orders").items = [] ∧
      rowNumbers.sql .sqlite "orders" true =
        "WITH dsl_base AS (SELECT  FROM \"orders\") " ++
          "SELECT dsl_base.*, ROW_NUMBER() OVER () AS \"rn\" FROM dsl_base LIMIT 10000" :=
  ⟨rfl, rfl, by decide +kernel⟩

end TableQuery
