import TableQuery.Proofs.Rows.GroupRows
import TableQuery.Proofs.Rows.RawColumns
import TableQuery.Proofs.Sql.NativeForms

namespace TableQuery

open Sql

/-- The schema's table of that name has the column. -/
def Schema.HasColumn (schema : Schema) (table column : String) : Prop :=
  ∃ t, schema.table? table = some t ∧ t.hasColumn column = true

namespace Sql

def ColumnRef.Qualified (schema : Schema) (tables : List String) (c : ColumnRef) : Prop :=
  ∃ table column, c = .qualified table column ∧ table ∈ tables ∧ schema.HasColumn table column

def JoinClause.Bound (schema : Schema) (tables : List String) (j : JoinClause) : Prop :=
  j.left.Qualified schema tables ∧ j.right.Qualified schema tables

/-- Every column of the tables, a bare column of one of them, or a qualified one. -/
def ColumnRef.InScope (schema : Schema) (tables : List String) (c : ColumnRef) : Prop :=
  c = .star ∨ (∃ column, c = .bare column ∧ ∃ table ∈ tables, schema.HasColumn table column) ∨
    c.Qualified schema tables

/-- The columns within an expression; of a given text nothing is known. -/
def Expr.ReadsOnly (p : ColumnRef → Prop) : Expr → Prop
  | .null => True
  | .given _ => False
  | .column c => p c
  | .numeric e => e.ReadsOnly p
  | .truncated _ e => e.ReadsOnly p
  | .aggregate _ e => e.ReadsOnly p

def Select.tables (s : Select) : List String := s.table :: s.joins.map JoinClause.table

/-- The tables are those of a schema, and the columns read in SELECT, FROM, WHERE and GROUP BY are
theirs. The keys of a join are qualified by a table that stands before it or by the joined one. -/
structure Select.InScope (schema : Schema) (s : Select) : Prop where
  tables : ∀ table ∈ s.tables, (schema.table? table).isSome = true
  keys : ∀ before j after, s.joins = before ++ j :: after →
    j.Bound schema (s.table :: (before.map JoinClause.table ++ [j.table]))
  items : ∀ i ∈ s.items, i.expr.ReadsOnly (ColumnRef.InScope schema s.tables)
  filter : ∀ c ∈ s.filter, c.subject.ReadsOnly (ColumnRef.InScope schema s.tables)
  groupBy : ∀ e ∈ s.groupBy, e.ReadsOnly (ColumnRef.InScope schema s.tables)

/-- A column of the base rows that the statement selects there. -/
def Select.Emits (s : Select) (c : ColumnRef) : Prop := ∃ i ∈ s.items, c = .ofBaseRows i.name

/-- Windows read columns of the base rows only. -/
structure Statement.InScope (schema : Schema) (s : Statement) : Prop where
  body : s.body.InScope schema
  values : ∀ w ∈ s.windows, w.value.ReadsOnly s.body.Emits
  partitions : ∀ w ∈ s.windows, ∀ c ∈ w.partitionBy, s.body.Emits c
  orders : ∀ w ∈ s.windows, ∀ t ∈ w.orderBy, s.body.Emits t.1

namespace Expr

variable {p : ColumnRef → Prop}

theorem readsOnly_of_source {e : Expr} {c : ColumnRef} (h : e.source? = some c) (hp : p c) :
    e.ReadsOnly p := by
  cases e with
  | column c' =>
      obtain rfl := Option.some.inj h
      exact hp
  | truncated b e =>
      cases e with
      | column c' =>
          obtain rfl := Option.some.inj h
          exact hp
      | _ => cases h
  | _ => cases h

end Expr

theorem Condition.readsOnly_subject_iff {p : ColumnRef → Prop} {c : Condition} :
    c.subject.ReadsOnly p ↔ c.expr.ReadsOnly p := by
  unfold subject
  split <;> rfl

end Sql

theorem Schema.name_of_table? {schema : Schema} {name : String} {t : Table}
    (h : schema.table? name = some t) : t.name = name := by
  simpa using List.find?_some h

theorem Table.check_eq_ok_iff {t : Table} {column : String} {context : NameContext} :
    t.check column context = .ok () ↔ t.hasColumn column = true := by
  unfold check
  split <;> simp_all

namespace Scope

variable {schema : Schema} {s : Scope}

/-- The tables are found in the schema under their names. -/
def Within (schema : Schema) (s : Scope) : Prop := ∀ t ∈ s.tables, schema.table? t.name = some t

def tableNames (s : Scope) : List String := s.tables.map Table.name

theorem tables_join (s : Scope) (t : Table) : (s.join t).tables = s.tables ++ [t] := rfl

theorem tableNames_join (s : Scope) (t : Table) :
    (s.join t).tableNames = s.tableNames ++ [t.name] := by
  rw [tableNames, tables_join, List.map_append, List.map_singleton]
  rfl

theorem Within.join (hs : s.Within schema) {t : Table} (ht : schema.table? t.name = some t) :
    (s.join t).Within schema := by
  intro u hu
  rw [tables_join, List.mem_append, List.mem_singleton] at hu
  rcases hu with hu | rfl
  · exact hs u hu
  · exact ht

theorem Within.qualified (hs : s.Within schema) {t : Table} (ht : t ∈ s.tables) {column : String}
    (hc : t.hasColumn column = true) :
    (ColumnRef.qualified t.name column).Qualified schema s.tableNames :=
  ⟨_, _, rfl, List.mem_map_of_mem ht, t, hs t ht, hc⟩

theorem Within.qualified_of_check (hs : s.Within schema) {table column : String}
    (ht : '.' ∉ table.toList) {context : NameContext}
    (h : s.check (table ++ "." ++ column) context = .ok ()) :
    (ColumnRef.qualified table column).Qualified schema s.tableNames := by
  unfold check at h
  rw [FieldRef.ofField_qualified ht] at h
  cases hf : s.table? table with
  | none => simp [hf] at h
  | some t =>
      simp only [hf, Table.check_eq_ok_iff] at h
      obtain rfl : t.name = table := by simpa using List.find?_some hf
      exact hs.qualified (List.mem_of_find?_eq_some hf) h

theorem Within.inScope_of_check (hs : s.Within schema) {field : String} {context : NameContext}
    (h : s.check field context = .ok ()) :
    (ColumnRef.ofField field).InScope schema s.tableNames := by
  rcases FieldRef.bare_or_qualified field with hf | ⟨table, column, ht, rfl⟩
  · rw [ColumnRef.ofField_bare hf]
    split
    · exact .inl rfl
    · unfold check at h
      rw [FieldRef.ofField_bare hf] at h
      cases ha : s.tables.any fun t => t.hasColumn field with
      | false => simp [ha] at h
      | true =>
          obtain ⟨t, ht, hc⟩ := List.any_eq_true.mp ha
          exact .inr (.inl ⟨field, rfl, t.name, List.mem_map_of_mem ht, t, hs t ht, hc⟩)
  · rw [ColumnRef.ofField_qualified ht]
    exact .inr (.inr (hs.qualified_of_check ht h))

theorem Within.qualified_of_checkKey {joined side : Table} {key : String}
    (hs : (s.join joined).Within schema) (hside : side ∈ (s.join joined).tables)
    (h : s.checkKey joined side key = .ok ()) :
    (Query.keyRef side.name key).Qualified schema (s.join joined).tableNames := by
  unfold checkKey at h
  rcases FieldRef.bare_or_qualified key with hf | ⟨table, column, ht, rfl⟩
  · have hq : isQualified key = false := by simp [isQualified, FieldRef.ofField_bare hf]
    rw [hq, if_neg Bool.false_ne_true, Table.check_eq_ok_iff] at h
    rw [Query.keyRef, FieldRef.ofField_bare hf]
    exact hs.qualified hside h
  · rw [isQualified_iff.mpr ⟨table, column, ht, rfl⟩, if_pos rfl] at h
    rw [Query.keyRef, FieldRef.ofField_qualified ht]
    exact hs.qualified_of_check ht h

theorem addJoin_eq_ok_iff {j : Join} {s' : Scope} :
    addJoin schema s j = .ok s' ↔ ∃ joined, schema.table? j.table = some joined ∧
      s.checkKey joined s.base j.left = .ok () ∧ s.checkKey joined joined j.right = .ok () ∧
        s' = s.join joined := by
  unfold addJoin
  cases ht : schema.table? j.table with
  | none => simp
  | some joined =>
      cases hl : s.checkKey joined s.base j.left with
      | error e => simp [hl]
      | ok u =>
          cases hr : s.checkKey joined joined j.right with
          | error e => simp [hl, hr]
          | ok v => simp [hl, hr, eq_comm]

theorem Within.addJoin (hs : s.Within schema) {j : Join} {s' : Scope}
    (h : Scope.addJoin schema s j = .ok s') :
    s'.base = s.base ∧ s'.tableNames = s.tableNames ++ [j.table] ∧ s'.Within schema ∧
      (Query.joinClause s.base.name j).Bound schema s'.tableNames := by
  obtain ⟨joined, ht, hl, hr, rfl⟩ := addJoin_eq_ok_iff.mp h
  have hn := Schema.name_of_table? ht
  have hw : (s.join joined).Within schema := hs.join (hn ▸ ht)
  have hbase : s.base ∈ (s.join joined).tables := List.mem_cons_self
  have hjoined : joined ∈ (s.join joined).tables := by simp [tables_join]
  refine ⟨rfl, by rw [tableNames_join, hn], hw, hw.qualified_of_checkKey hbase hl, ?_⟩
  have hright := hw.qualified_of_checkKey hjoined hr
  rwa [hn] at hright

theorem Within.addJoins (hs : s.Within schema) {joins : List Join} {s' : Scope}
    (h : joins.foldlM (Scope.addJoin schema) s = .ok s') :
    s'.tableNames = s.tableNames ++ joins.map Join.table ∧ s'.Within schema ∧
      ∀ before j after, joins = before ++ j :: after →
        (Query.joinClause s.base.name j).Bound schema
          (s.tableNames ++ (before.map Join.table ++ [j.table])) := by
  induction joins generalizing s with
  | nil =>
      obtain rfl := Except.ok.inj h
      exact ⟨by simp, hs, by simp⟩
  | cons first joins ih =>
      rw [List.foldlM_cons] at h
      cases hf : Scope.addJoin schema s first with
      | error e => simp [hf, bind, Except.bind] at h
      | ok next =>
          obtain ⟨hbase, hnames, hw, hbound⟩ := hs.addJoin hf
          obtain ⟨hall, hw', hrest⟩ := ih hw (by simpa [hf, bind, Except.bind] using h)
          refine ⟨by rw [hall, hnames, List.append_assoc]; rfl, hw', ?_⟩
          intro before j after he
          cases before with
          | nil =>
              obtain ⟨rfl, -⟩ := List.cons.inj he
              simpa [hnames] using hbound
          | cons k before =>
              obtain ⟨rfl, hj⟩ := List.cons.inj he
              have hbound' := hrest before j after hj
              rw [hbase, hnames] at hbound'
              simpa using hbound'

theorem check_of_checkAggregate {a : AggregateField} (h : s.checkAggregate a = .ok ())
    (hr : a.countsRows = false) : s.check a.field .field = .ok () := by
  unfold checkAggregate at h
  rw [hr, if_neg Bool.false_ne_true] at h
  exact (except_bind_eq_ok.mp h).1

end Scope

namespace Query

variable {q : Query} {schema : Schema} {base : String}

theorem exists_scope_of_checkSchema (h : q.checkSchema schema base = .ok ()) :
    ∃ t s, schema.table? base = some t ∧ Scope.ofJoins schema t q.join = .ok s ∧
      q.checkIn s = .ok () := by
  unfold checkSchema at h
  cases ht : schema.table? base with
  | none => simp [ht] at h
  | some t =>
      cases hj : Scope.ofJoins schema t q.join with
      | error e => simp [ht, hj, bind, Except.bind] at h
      | ok s => exact ⟨t, s, rfl, hj, by simpa [ht, hj, bind, Except.bind] using h⟩

theorem exists_within_of_checkSchema (h : q.checkSchema schema base = .ok ()) :
    ∃ s : Scope, s.tableNames = base :: q.join.map Join.table ∧ s.Within schema ∧
      (∀ before j after, q.join = before ++ j :: after →
        (joinClause base j).Bound schema (base :: (before.map Join.table ++ [j.table]))) ∧
      q.checkIn s = .ok () := by
  obtain ⟨t, s, ht, hj, hc⟩ := exists_scope_of_checkSchema h
  obtain rfl := Schema.name_of_table? ht
  have hw : Scope.Within schema ⟨t, []⟩ := by
    intro u hu
    obtain rfl := List.mem_singleton.mp hu
    exact ht
  obtain ⟨hnames, hs, hbound⟩ := hw.addJoins hj
  exact ⟨s, hnames, hs, hbound, hc⟩

section Accepted

variable {s : Scope} (hs : s.Within schema) (hc : q.checkIn s = .ok ())

include hs hc

theorem inScope_of_mem_readFields {field : String} (hf : field ∈ q.readFields) :
    (ColumnRef.ofField field).InScope schema s.tableNames := by
  obtain ⟨-, hselect, hgroup, -⟩ := checkIn_eq_ok_iff.mp hc
  rw [readFields, List.mem_append, List.mem_filterMap, List.mem_map] at hf
  rcases hf with ⟨x, hx, hr⟩ | ⟨g, hg, rfl⟩
  · have hk := hselect x (mem_baseSelect.mp hx).1
    cases x with
    | column other =>
        obtain rfl := Option.some.inj hr
        exact hs.inScope_of_check hk
    | aggregate a =>
        cases hrows : a.countsRows with
        | true => simp [SelectField.read?, hrows] at hr
        | false =>
            obtain rfl : a.field = field := by simpa [SelectField.read?, hrows] using hr
            exact hs.inScope_of_check (Scope.check_of_checkAggregate hk hrows)
    | window w => cases hr
  · exact hs.inScope_of_check (hgroup g hg)

theorem readsOnly_selectItem {i : SelectItem} (hi : i ∈ q.selectItems) :
    i.expr.ReadsOnly (ColumnRef.InScope schema s.tableNames) := by
  rcases List.mem_append.mp hi with hi | hi
  · obtain ⟨b, hb, rfl⟩ := List.mem_map.mp hi
    have hg := mem_readFields_of_group (bucketed_mem_of_implicit hb)
    exact inScope_of_mem_readFields hs hc hg
  · obtain ⟨x, hx, hi⟩ := List.mem_filterMap.mp hi
    cases x with
    | column field =>
        obtain ⟨label, hl, -⟩ := q.exists_columnItem field
        obtain rfl := Option.some.inj (hl.symm.trans hi)
        exact Expr.readsOnly_of_source (q.source?_fieldExpr field)
          (inScope_of_mem_readFields hs hc (mem_readFields_of_column hx))
    | aggregate a =>
        obtain rfl := Option.some.inj hi
        change (ColumnRef.ofField a.field).InScope schema s.tableNames
        cases hrows : a.countsRows with
        | true =>
            have hstar : a.field = "*" := by simpa [AggregateField.countsRows] using hrows
            exact .inl (by rw [hstar]; rfl)
        | false =>
            have ha := mem_aggregates.mpr hx
            exact inScope_of_mem_readFields hs hc (mem_readFields_of_aggregate ha hrows)
    | window w => cases hi

theorem readsOnly_rawItem (table : String) {i : SelectItem}
    (hi : i ∈ (q.rawQuery.body table).items) :
    i.expr.ReadsOnly (ColumnRef.InScope schema s.tableNames) := by
  rw [rawItems_eq] at hi
  obtain ⟨field, hf, hi⟩ := List.mem_filterMap.mp hi
  obtain ⟨label, hl, -⟩ := q.rawQuery.exists_columnItem field
  obtain rfl := Option.some.inj (hl.symm.trans hi)
  refine Expr.readsOnly_of_source (q.rawQuery.source?_fieldExpr field) ?_
  by_cases hstar : field = "*"
  · exact .inl (by rw [hstar]; rfl)
  · exact inScope_of_mem_readFields hs hc ((mem_rawFields_iff hstar).mp hf)

theorem readsOnly_filter {f : Filter} (hf : f ∈ q.filter) :
    (Condition.mk (.ofField f.field) f).subject.ReadsOnly
      (ColumnRef.InScope schema s.tableNames) := by
  obtain ⟨-, -, -, hfilter, -⟩ := checkIn_eq_ok_iff.mp hc
  exact Condition.readsOnly_subject_iff.mpr (hs.inScope_of_check (hfilter f hf))

theorem readsOnly_groupExpr {g : GroupField} (hg : g ∈ q.groupBy) :
    (groupExpr g).ReadsOnly (ColumnRef.InScope schema s.tableNames) := by
  have hf := inScope_of_mem_readFields hs hc (mem_readFields_of_group hg)
  unfold groupExpr
  split <;> exact hf

end Accepted

theorem tables_body (q : Query) (base : String) :
    (q.body base).tables = base :: q.join.map Join.table := by
  rw [Select.tables, body, List.map_map]
  rfl

theorem bound_body
    (h : ∀ before j after, q.join = before ++ j :: after →
      (joinClause base j).Bound schema (base :: (before.map Join.table ++ [j.table])))
    (before : List JoinClause) (c : JoinClause) (after : List JoinClause)
    (he : (q.body base).joins = before ++ c :: after) :
    c.Bound schema (base :: (before.map JoinClause.table ++ [c.table])) := by
  obtain ⟨left, right, hj, rfl, hr⟩ := List.map_eq_append_iff.mp he
  obtain ⟨j, right, rfl, rfl, rfl⟩ := List.map_eq_cons_iff.mp hr
  have hb := h left j right hj
  rwa [List.map_map]

theorem inScope_body {s : Scope} (hs : s.Within schema) (hc : q.checkIn s = .ok ())
    (hnames : s.tableNames = base :: q.join.map Join.table)
    (hbound : ∀ before j after, q.join = before ++ j :: after →
      (joinClause base j).Bound schema (base :: (before.map Join.table ++ [j.table]))) :
    (q.body base).InScope schema where
  tables := by
    rw [tables_body, ← hnames]
    intro table hm
    obtain ⟨t, ht, rfl⟩ := List.mem_map.mp hm
    exact Option.isSome_of_eq_some (hs t ht)
  keys := bound_body hbound
  items := by
    rw [tables_body, ← hnames]
    exact fun _ hi => readsOnly_selectItem hs hc hi
  filter := by
    rw [tables_body, ← hnames]
    intro c hm
    obtain ⟨f, hf, rfl⟩ := List.mem_map.mp hm
    exact readsOnly_filter hs hc hf
  groupBy := by
    rw [tables_body, ← hnames]
    intro e hm
    obtain ⟨g, hg, rfl⟩ := List.mem_map.mp hm
    exact readsOnly_groupExpr hs hc hg

theorem inScope_rawBody {s : Scope} (hs : s.Within schema) (hc : q.checkIn s = .ok ())
    (hnames : s.tableNames = base :: q.join.map Join.table) (h : (q.body base).InScope schema) :
    (q.rawQuery.body base).InScope schema where
  tables := h.tables
  keys := h.keys
  items := by
    have ht : (q.rawQuery.body base).tables = s.tableNames := by
      rw [tables_body, hnames]
      rfl
    rw [ht]
    exact fun _ hi => readsOnly_rawItem hs hc base hi
  filter := h.filter
  groupBy := by simp [body, rawQuery]

theorem emits_baseColumn {field : String} (h : outputName field ∈ q.baseColumns) (table : String) :
    (q.body table).Emits (baseColumn field) := by
  rw [← selectItems_names] at h
  obtain ⟨i, hi, hn⟩ := List.mem_map.mp h
  exact ⟨i, hi, by rw [hn]; rfl⟩

theorem inScope_windowCall {w : WindowField} (h : w.check q.baseColumns = .ok ()) (table : String) :
    (windowCall w).value.ReadsOnly (q.body table).Emits ∧
      (∀ c ∈ (windowCall w).partitionBy, (q.body table).Emits c) ∧
      ∀ t ∈ (windowCall w).orderBy, (q.body table).Emits t.1 := by
  obtain ⟨hf, -, hp, ho⟩ := WindowField.check_eq_ok_iff.mp h
  refine ⟨?_, ?_, ?_⟩
  · cases hw : w.field with
    | none => simp [windowCall, hw, Expr.ReadsOnly]
    | some field =>
        simp only [windowCall, hw, Option.map_some, Option.getD_some]
        exact emits_baseColumn (hf field hw) table
  · intro c hm
    obtain ⟨field, hfield, rfl⟩ := List.mem_map.mp hm
    exact emits_baseColumn (hp field hfield) table
  · intro t hm
    obtain ⟨term, hterm, rfl⟩ := List.mem_map.mp hm
    exact emits_baseColumn (ho term hterm) table

theorem inScope_statement (h : (q.body base).InScope schema)
    (hchecked : ∀ w ∈ q.windows, w.check q.baseColumns = .ok ()) (capped : Bool) :
    (q.statement base capped).InScope schema := by
  have hb := body_statement q base capped
  have hw (w : WindowCall) (hm : w ∈ (q.statement base capped).windows) :
      w.value.ReadsOnly (q.body base).Emits ∧ (∀ c ∈ w.partitionBy, (q.body base).Emits c) ∧
        ∀ t ∈ w.orderBy, (q.body base).Emits t.1 := by
    obtain ⟨v, hv, rfl⟩ := exists_of_mem_windows hm
    exact inScope_windowCall (hchecked v hv) base
  rw [← hb] at h hw
  exact ⟨h, fun w hm => (hw w hm).1, fun w hm => (hw w hm).2.1, fun w hm => (hw w hm).2.2⟩

theorem windows_rawQuery (q : Query) : q.rawQuery.windows = [] := by
  rw [windows, List.filterMap_eq_nil_iff]
  intro x hx
  obtain ⟨field, -, rfl⟩ := List.mem_map.mp hx
  rfl

end Query

/-- Every column that a statement of an accepted query reads in SELECT, WHERE and GROUP BY, `*`
apart, is one of the tables in its FROM clause, which are tables of the schema. The sides of ON are
columns of the tables up to the joined one. Windows read columns that the table expression selects.
The same holds of the statement that fetches the raw rows. -/
theorem accepted_columns_in_scope {q : Query} {schema : Schema} {base : String}
    (h : q.checkSchema schema base = .ok ()) (capped : Bool) :
    (q.statement base capped).InScope schema ∧ (q.rawQuery.statement base capped).InScope schema := by
  obtain ⟨s, hnames, hs, hbound, hc⟩ := Query.exists_within_of_checkSchema h
  obtain ⟨-, -, -, -, -, -, hwindows, -⟩ := Query.checkIn_eq_ok_iff.mp hc
  have hbody := Query.inScope_body hs hc hnames hbound
  have hraw := Query.inScope_rawBody hs hc hnames hbody
  refine ⟨Query.inScope_statement hbody hwindows capped, Query.inScope_statement hraw ?_ capped⟩
  rw [Query.windows_rawQuery]
  exact List.forall_mem_nil _

def shop : Schema where
  tables := [⟨"orders", [⟨"customer_id", "INTEGER", false⟩, ⟨"amount", "REAL", true⟩]⟩,
    ⟨"customers", [⟨"id", "INTEGER", false⟩, ⟨"country", "TEXT", true⟩]⟩,
    ⟨"countries", [⟨"code", "TEXT", false⟩, ⟨"continent", "TEXT", true⟩]⟩]
  foreignKeys := []

def revenueByContinent : Query where
  join := [⟨"customers", "customer_id", "id", .inner⟩,
    ⟨"countries", "customers.country", "code", .left⟩]
  select := [.column "continent", .aggregate ⟨"orders.amount", .sum, "revenue", none⟩,
    .window ⟨.rank, none, "place", [], [⟨"revenue", .desc⟩], none, none⟩]
  groupBy := [.plain "continent"]
  filter := [⟨"customers.country", .isNotNull, none⟩]
  having := []
  orderBy := []
  limit := none

theorem revenueByContinent_in_scope :
    revenueByContinent.checkSchema shop "orders" = .ok () ∧
      (revenueByContinent.statement "orders" true).InScope shop ∧
      ((revenueByContinent.statement "orders" true).body.joins.map fun j => (j.left, j.right)) =
        [(.qualified "orders" "customer_id", .qualified "customers" "id"),
          (.qualified "customers" "country", .qualified "countries" "code")] := by
  have hc : revenueByContinent.checkSchema shop "orders" = .ok () := rfl
  exact ⟨hc, (accepted_columns_in_scope hc true).1, rfl⟩

end TableQuery
