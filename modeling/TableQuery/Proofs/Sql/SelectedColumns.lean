import TableQuery.Proofs.Query.OutputColumns
import TableQuery.Sql.Compilation

namespace TableQuery

open Sql

namespace Sql

def ColumnRef.name : ColumnRef → String
  | .star => "*"
  | .bare column => column
  | .qualified _ column => column
  | .ofBaseRows column => column

/-- The name an engine gives the column: its label, or else the name of the column it selects. -/
def SelectItem.name (i : SelectItem) : String :=
  match i.label, i.expr with
  | some label, _ => label
  | none, .column c => c.name
  | none, _ => ""

def Select.emitted? (s : Select) (name : String) : Option Expr :=
  (s.items.find? fun i => i.name = name).map SelectItem.expr

/-- The base rows' columns stand before those of the windows. -/
def Statement.emitted? (name : String) : Statement → Option SortTarget
  | .plain body _ => (body.emitted? name).map .expr
  | .windowed base windows _ =>
    if (base.emitted? name).isSome then some (.expr (.column (.ofBaseRows name)))
    else (windows.find? fun w => w.2 = name).map fun w => .window w.1

def Statement.ending : Statement → Ending
  | .plain _ ending => ending
  | .windowed _ _ ending => ending

def Expr.source? : Expr → Option ColumnRef
  | .column c => some c
  | .truncated _ (.column c) => some c
  | _ => none

namespace ColumnRef

theorem ofField_bare {field : String} (h : '.' ∉ field.toList) :
    ofField field = if field = "*" then .star else .bare field := by
  rw [ofField, FieldRef.ofField_bare h]

theorem ofField_qualified {table : String} (h : '.' ∉ table.toList) (column : String) :
    ofField (table ++ "." ++ column) = .qualified table column := by
  rw [ofField, FieldRef.ofField_qualified h]

theorem name_ofField {field : String} (h : isQualified field = false) :
    (ofField field).name = field := by
  rcases FieldRef.bare_or_qualified field with hf | hq
  · rw [ofField_bare hf]
    by_cases hs : field = "*"
    · rw [if_pos hs, hs, name]
    · rw [if_neg hs, name]
  · simp [isQualified_iff.mpr hq] at h

theorem ofField_injective {field other : String} (h : ofField field = ofField other) :
    field = other := by
  rcases FieldRef.bare_or_qualified field with hf | ⟨table, column, ht, rfl⟩ <;>
    rcases FieldRef.bare_or_qualified other with ho | ⟨table', column', ht', rfl⟩
  · rw [ofField_bare hf, ofField_bare ho] at h
    by_cases hs : field = "*" <;> by_cases hs' : other = "*" <;> simp [hs, hs'] at h ⊢
    exact h
  · rw [ofField_bare hf, ofField_qualified ht'] at h
    split at h <;> cases h
  · rw [ofField_qualified ht, ofField_bare ho] at h
    split at h <;> cases h
  · rw [ofField_qualified ht, ofField_qualified ht'] at h
    obtain ⟨rfl, rfl⟩ := ColumnRef.qualified.inj h
    rfl

end ColumnRef

end Sql

namespace Query

variable {q : Query}

theorem fieldNamed_eq_find? (name : String) :
    q.fieldNamed name = q.columnFields.find? (produces name) := by
  rw [fieldNamed, columnFields, List.find?_append]
  congr 1
  induction q.baseSelect with
  | nil => rfl
  | cons f rest ih =>
      cases f with
      | column field => cases hp : produces name field <;> simp [SelectField.column?, hp, ih]
      | _ => simpa [SelectField.column?] using ih

theorem source?_fieldExpr (field : String) :
    (q.fieldExpr field).source? = some (.ofField field) := by
  unfold fieldExpr
  split <;> rfl

theorem fieldExpr_eq_ofField {field : String} (h : q.bucketOf field = none) :
    q.fieldExpr field = .ofField field := by
  rw [fieldExpr, h]

theorem exists_columnItem (field : String) :
    ∃ label, q.selectItem (.column field) = some ⟨q.fieldExpr field, label⟩ ∧
      SelectItem.name ⟨q.fieldExpr field, label⟩ = outputName field := by
  by_cases hl : ((q.bucketOf field).isSome || isQualified field) = true
  · exact ⟨some (outputName field), by simp only [selectItem, hl, if_true], rfl⟩
  · refine ⟨none, by simp only [selectItem, hl]; rfl, ?_⟩
    obtain ⟨hb, hu⟩ : q.bucketOf field = none ∧ isQualified field = false := by simpa using hl
    rw [fieldExpr_eq_ofField hb, outputName_bare hu]
    exact ColumnRef.name_ofField hu

theorem selectItems_names : q.selectItems.map SelectItem.name = q.baseColumns := by
  rw [selectItems, List.map_append, List.map_map, baseColumns]
  congr 1
  apply map_filterMap_baseSelect
  intro f hf
  cases f with
  | column field =>
      obtain ⟨label, hi, hl⟩ := q.exists_columnItem field
      rw [hi, Option.map_some, hl, SelectField.outputName]
  | aggregate a => rfl
  | window w => cases hf

section Nodup

variable (hn : q.baseColumns.Nodup) (table : String)

include hn

theorem emitted?_of_mem {i : SelectItem} (hi : i ∈ q.selectItems) :
    (q.body table).emitted? i.name = some i.expr := by
  have hk : (q.selectItems.map SelectItem.name).Nodup := by rwa [selectItems_names]
  have hf := find?_key_eq_some hk hi
  change (q.selectItems.find? fun j => j.name = i.name).map SelectItem.expr = some i.expr
  rw [hf, Option.map_some]

theorem emitted?_of_baseSelect {f : SelectField} (hf : f ∈ q.baseSelect) {i : SelectItem}
    (hi : q.selectItem f = some i) : (q.body table).emitted? i.name = some i.expr := by
  apply emitted?_of_mem hn table
  rw [selectItems, List.mem_append, List.mem_filterMap]
  exact .inr ⟨f, hf, hi⟩

theorem emitted?_aggregate {a : AggregateField} (ha : a ∈ q.aggregates) :
    (q.body table).emitted? a.label = some (aggregateExpr a) :=
  emitted?_of_baseSelect hn table (mem_aggregates.mp ha) rfl

theorem emitted?_column {field : String} (hf : .column field ∈ q.baseSelect) :
    (q.body table).emitted? (outputName field) = some (q.fieldExpr field) := by
  obtain ⟨label, hi, hl⟩ := q.exists_columnItem field
  rw [← hl]
  exact emitted?_of_baseSelect hn table hf hi

theorem emitted?_bucket {b : String × Bucket} (hb : b ∈ q.implicitBuckets) :
    (q.body table).emitted? (outputName b.1) = some (.truncated b.2 (.ofField b.1)) := by
  have hi : bucketItem b ∈ q.selectItems := by
    rw [selectItems, List.mem_append]
    exact .inl (List.mem_map_of_mem hb)
  exact emitted?_of_mem hn table hi

end Nodup

theorem isSome_emitted?_iff (table name : String) :
    ((q.body table).emitted? name).isSome ↔ name ∈ q.baseColumns := by
  rw [Select.emitted?, Option.isSome_map, find?_key_isSome]
  change name ∈ q.selectItems.map SelectItem.name ↔ _
  rw [selectItems_names]

end Query
end TableQuery
