import TableQuery.Execution.Path
import TableQuery.Proofs.Sql.References

namespace TableQuery

open Sql

def Sql.Select.row (s : Select) (value : Expr → Json) : Row :=
  .ofPairs (s.items.map fun i => (i.name, value i.expr))

def ownRow (field : String) (value : Expr → Json) : Row :=
  ⟨[(outputName field, value (.ofField field))]⟩

/-- The field whose cell is read; whole rows are counted without one. -/
def SelectField.read? : SelectField → Option String
  | .column field => some field
  | .aggregate a => if a.countsRows then none else some a.field
  | .window _ => none

namespace Query

variable {q : Query}

def readFields (q : Query) : List String :=
  q.baseSelect.filterMap SelectField.read? ++ q.groupBy.map GroupField.field

/-- No fetched field is another one respelled, unless both have output columns: these have different
names anyway. -/
def RawFieldsApart (q : Query) : Prop :=
  ∀ f ∈ q.rawFields, ∀ g ∈ q.rawFields, g ∉ q.columnFields → ¬Respelled f g ∧ ¬Respelled g f

section Fields

theorem read?_eq_some_iff {x : SelectField} {field : String} (h : field ≠ "*") :
    x.read? = some field ↔ sourceField x = some field := by
  cases x with
  | column other => rfl
  | window w => rfl
  | aggregate a =>
      by_cases hs : a.field = "*"
      · simp [SelectField.read?, sourceField, AggregateField.countsRows, hs, Ne.symm h]
      · simp [SelectField.read?, sourceField, AggregateField.countsRows, hs]

theorem mem_rawFields_iff {field : String} (h : field ≠ "*") :
    field ∈ q.rawFields ↔ field ∈ q.readFields := by
  have hm : field ∈ (q.baseSelect.filterMap sourceField ++ q.groupBy.map GroupField.field).filter
      (· ≠ "*") ↔ field ∈ q.readFields := by
    simp only [readFields, List.mem_filter, List.mem_append, List.mem_filterMap,
      read?_eq_some_iff h]
    simp [h]
  rw [← hm, rawFields]
  split
  · next he =>
      rw [List.isEmpty_iff.mp he]
      simp [h]
  · next he => rw [List.mem_eraseDups]

theorem nodup_rawFields : q.rawFields.Nodup := by
  rw [rawFields]
  split
  · simp
  · exact nodup_eraseDups _

theorem star_mem_rawFields_iff : "*" ∈ q.rawFields ↔ q.rawFields = ["*"] := by
  constructor
  · intro h
    rw [rawFields] at h ⊢
    split at h
    · next he => rw [if_pos he]
    · simp [List.mem_eraseDups] at h
  · intro h
    simp [h]

theorem mem_readFields_of_column {field : String} (h : .column field ∈ q.baseSelect) :
    field ∈ q.readFields := by
  rw [readFields, List.mem_append, List.mem_filterMap]
  exact .inl ⟨_, h, rfl⟩

theorem mem_readFields_of_aggregate {a : AggregateField} (h : a ∈ q.aggregates)
    (hf : a.countsRows = false) : a.field ∈ q.readFields := by
  rw [readFields, List.mem_append, List.mem_filterMap]
  exact .inl ⟨_, mem_aggregates.mp h, by simp [SelectField.read?, hf]⟩

theorem mem_readFields_of_group {g : GroupField} (h : g ∈ q.groupBy) :
    g.field ∈ q.readFields := by
  rw [readFields, List.mem_append]
  exact .inr (List.mem_map_of_mem h)

/-- The fetched field that is read under `*` is `*` itself. -/
theorem eq_star_of_outputName_eq {field : String} (h : outputName field = "*") : field = "*" := by
  rcases FieldRef.bare_or_qualified field with hf | ⟨table, column, ht, rfl⟩
  · rwa [outputName, FieldRef.ofField_bare hf] at h
  · rw [outputName_qualified ht] at h
    have hm : '_' ∈ "*".toList := by simp [← h]
    simp at hm

end Fields

section Statement

variable (q) (table : String)

theorem rawItems_eq :
    (q.rawQuery.body table).items =
      q.rawFields.filterMap fun f => q.rawQuery.selectItem (.column f) := by
  have hb : q.rawQuery.baseSelect = q.rawFields.map .column := by
    apply List.filter_eq_self.mpr
    intro x hx
    obtain ⟨f, -, rfl⟩ := List.mem_map.mp hx
    rfl
  change q.rawQuery.implicitBuckets.map bucketItem ++ q.rawQuery.baseSelect.filterMap _ = _
  rw [hb, List.filterMap_map]
  rfl

theorem rawItems_cells (value : Expr → Json) :
    (q.rawQuery.body table).items.map (fun i => (i.name, value i.expr)) =
      q.rawFields.map fun f => (outputName f, value (.ofField f)) := by
  rw [rawItems_eq, List.map_filterMap, ← List.filterMap_eq_map]
  apply List.filterMap_congr
  intro f _
  obtain ⟨label, hi, hl⟩ := q.rawQuery.exists_columnItem f
  rw [hi, Option.map_some, hl, fieldExpr_eq_ofField rfl, Function.comp_apply]

theorem rawItems_names :
    (q.rawQuery.body table).items.map SelectItem.name = q.rawFields.map outputName := by
  have h := congrArg (List.map Prod.fst) (q.rawItems_cells table fun _ => .null)
  rwa [List.map_map, List.map_map] at h

theorem isSome_get?_rawRow (value : Expr → Json) (column : String) :
    (((q.rawQuery.body table).row value).get? column).isSome ↔
      column ∈ q.rawFields.map outputName := by
  rw [Select.row, Row.isSome_get?_ofPairs, rawItems_cells, List.map_map]
  rfl

variable {q}

theorem get?_rawRow (hn : (q.rawFields.map outputName).Nodup) {f : String} (hf : f ∈ q.rawFields)
    (value : Expr → Json) :
    ((q.rawQuery.body table).row value).get? (outputName f) = some (value (.ofField f)) := by
  have hk : ((q.rawFields.map fun f => (outputName f, value (.ofField f))).map Prod.fst).Nodup := by
    rwa [List.map_map]
  rw [Select.row, rawItems_cells]
  exact Row.get?_ofPairs hk (List.mem_map_of_mem (f := fun f => (outputName f, value (.ofField f))) hf)

end Statement

section Columns

variable (hn : q.baseColumns.Nodup)

include hn

theorem nodup_rawNames_iff : (q.rawFields.map outputName).Nodup ↔ q.RawFieldsApart := by
  constructor
  · intro h f hf g hg _
    have hinj := List.inj_on_of_nodup_map h
    exact ⟨fun hr => hr.ne (hinj hf hg hr.outputName_eq),
      fun hr => hr.ne (hinj hg hf hr.outputName_eq)⟩
  · intro h
    refine List.Nodup.map_on ?_ nodup_rawFields
    intro f hf g hg he
    by_cases hgc : g ∈ q.columnFields
    · by_cases hfc : f ∈ q.columnFields
      · exact outputName_injOn hn hfc hgc he
      · obtain ⟨hgf, hfg⟩ := h g hg f hf hfc
        exact (outputName_eq_iff.mp he).resolve_right fun hr => hr.elim hfg hgf
    · obtain ⟨hfg, hgf⟩ := h f hf g hg hgc
      exact (outputName_eq_iff.mp he).resolve_right fun hr => hr.elim hfg hgf

theorem reads_own_cells_iff (table : String) :
    (∀ value, ∀ f ∈ q.readFields,
        ((q.rawQuery.body table).row value).get? (outputName f) = some (value (.ofField f))) ↔
      q.RawFieldsApart ∧ ("*" ∈ q.readFields → q.rawFields = ["*"]) := by
  constructor
  · intro h
    have hread {f : String} (hf : f ∈ q.rawFields) (hs : q.rawFields ≠ ["*"]) :
        f ∈ q.readFields :=
      (mem_rawFields_iff fun he => hs (star_mem_rawFields_iff.mp (he ▸ hf))).mp hf
    constructor
    · rw [← nodup_rawNames_iff hn]
      refine List.Nodup.map_on ?_ nodup_rawFields
      intro f hf g hg he
      by_cases hs : q.rawFields = ["*"]
      · rw [hs, List.mem_singleton] at hf hg
        rw [hf, hg]
      · -- a cell of its own only for the expression of the first field
        let value (e : Expr) : Json := .bool (decide (e.source? = some (.ofField f)))
        have hfv := h value f (hread hf hs)
        have hgv := h value g (hread hg hs)
        rw [he, hgv] at hfv
        have hv : decide (some (ColumnRef.ofField g) = some (ColumnRef.ofField f)) =
            decide (some (ColumnRef.ofField f) = some (ColumnRef.ofField f)) :=
          Json.bool.inj (Option.some.inj hfv)
        exact (ColumnRef.ofField_injective (Option.some.inj (by simpa using hv))).symm
    · intro hs
      have hsome := Option.isSome_of_eq_some (h (fun _ => .null) "*" hs)
      rw [isSome_get?_rawRow, List.mem_map] at hsome
      obtain ⟨f, hf, hfn⟩ := hsome
      rw [← star_mem_rawFields_iff]
      exact eq_star_of_outputName_eq hfn ▸ hf
  · rintro ⟨ha, hs⟩ value f hf
    refine get?_rawRow table ((nodup_rawNames_iff hn).mpr ha) ?_ value
    by_cases he : f = "*"
    · rw [hs (he ▸ hf), he, List.mem_singleton]
    · exact (mem_rawFields_iff he).mpr hf

end Columns

end Query

section Readers

variable {α : Type} {f g : α → Row}

theorem Aggregate.values_congr {xs : List α} {column : String}
    (h : ∀ x ∈ xs, (f x).get? column = (g x).get? column) :
    Aggregate.values column (xs.map f) = Aggregate.values column (xs.map g) := by
  rw [Aggregate.values, Aggregate.values, List.filterMap_map, List.filterMap_map]
  congr 1
  exact List.filterMap_congr h

/-- An aggregate depends on the cells under its own output name and on the number of rows. -/
theorem Aggregate.compute_congr (a : AggregateField) {xs : List α}
    (h : a.countsRows = false →
      ∀ x ∈ xs, (f x).get? (outputName a.field) = (g x).get? (outputName a.field)) :
    Aggregate.compute a (xs.map f) = Aggregate.compute a (xs.map g) := by
  unfold Aggregate.compute
  cases hr : a.countsRows with
  | true => simp
  | false => simp [Aggregate.values_congr (h hr)]

theorem Group.keyValue?_congr {r s : Row} {k : GroupField}
    (h : r.get? (outputName k.field) = s.get? (outputName k.field)) :
    Group.keyValue? r k = Group.keyValue? s k := by
  unfold Group.keyValue?
  rw [h]

end Readers

theorem get?_ownRow (field : String) (value : Expr → Json) :
    (ownRow field value).get? (outputName field) = some (value (.ofField field)) := by
  simp [ownRow, Row.get?]

/-- In an accepted query the fetched columns have different names exactly if no fetched field is
another one respelled. Every field then finds its own cell, where `*` is grouped or selected only
alone; aggregates and group keys are those of the rows with that cell and no other. -/
theorem raw_columns_faithful_iff {q : Query} {s : Scope} (hc : q.checkIn s = .ok ())
    (table : String) :
    (((q.rawQuery.body table).items.map SelectItem.name).Nodup ↔ q.RawFieldsApart) ∧
      ((∀ value, ∀ f ∈ q.readFields,
          ((q.rawQuery.body table).row value).get? (outputName f) = some (value (.ofField f))) ↔
        q.RawFieldsApart ∧ ("*" ∈ q.readFields → q.rawFields = ["*"])) ∧
      (q.RawFieldsApart → ("*" ∈ q.readFields → q.rawFields = ["*"]) →
        ∀ values : List (Expr → Json),
          (∀ a ∈ q.aggregates,
            Aggregate.compute a (values.map (q.rawQuery.body table).row) =
              Aggregate.compute a (values.map (ownRow a.field))) ∧
          ∀ value ∈ values,
            (∀ k ∈ q.groupBy, Group.keyValue? ((q.rawQuery.body table).row value) k =
              Group.keyValue? (ownRow k.field value) k) ∧
            ∀ field, .column field ∈ q.baseSelect →
              ((q.rawQuery.body table).row value).get? (outputName field) =
                some (value (.ofField field))) := by
  obtain ⟨-, -, -, -, hn, -⟩ := Query.checkIn_eq_ok_iff.mp hc
  have hb : q.baseColumns.Nodup := hn.of_append_left
  have hreads := Query.reads_own_cells_iff hb table
  refine ⟨?_, hreads, ?_⟩
  · rw [Query.rawItems_names]
    exact Query.nodup_rawNames_iff hb
  · intro ha hs values
    have hown {field : String} (hf : field ∈ q.readFields) (value : Expr → Json) :
        ((q.rawQuery.body table).row value).get? (outputName field) =
          (ownRow field value).get? (outputName field) := by
      rw [hreads.mpr ⟨ha, hs⟩ value field hf, get?_ownRow]
    refine ⟨?_, fun value _ => ⟨?_, ?_⟩⟩
    · intro a hm
      apply Aggregate.compute_congr
      intro hr value _
      exact hown (Query.mem_readFields_of_aggregate hm hr) value
    · intro k hk
      exact Group.keyValue?_congr (hown (Query.mem_readFields_of_group hk) value)
    · intro field hf
      exact hreads.mpr ⟨ha, hs⟩ value field (Query.mem_readFields_of_column hf)

def paidScope : Scope :=
  ⟨⟨"orders", [⟨"region", "TEXT", true⟩, ⟨"amount", "REAL", true⟩,
    ⟨"orders_amount", "REAL", true⟩]⟩, []⟩

def medianByRegion (field : String) : Query where
  join := []
  select := [.column "region", .aggregate ⟨"orders.amount", .count, "n", none⟩,
    .aggregate ⟨field, .median, "mid", none⟩]
  groupBy := [.plain "region"]
  filter := []
  having := []
  orderBy := []
  limit := none

theorem amount_read_apart :
    (medianByRegion "amount").checkIn paidScope = .ok () ∧
      (medianByRegion "amount").RawFieldsApart ∧
      ∀ values : List (Expr → Json), ∀ a ∈ (medianByRegion "amount").aggregates,
        Aggregate.compute a (values.map ((medianByRegion "amount").rawQuery.body "orders").row) =
          Aggregate.compute a (values.map (ownRow a.field)) := by
  have hc : (medianByRegion "amount").checkIn paidScope = .ok () := rfl
  obtain ⟨hnames, -, hown⟩ := raw_columns_faithful_iff hc "orders"
  have ha : (medianByRegion "amount").RawFieldsApart := hnames.mp (by decide)
  have hs : "*" ∈ (medianByRegion "amount").readFields →
      (medianByRegion "amount").rawFields = ["*"] := by
    decide
  exact ⟨hc, ha, fun values => (hown ha hs values).1⟩

def unpaid (e : Expr) : Json :=
  if e.source? = some (.ofField "orders_amount") then .int 7 else .null

/-- Two columns are fetched under the name `orders_amount`, and the missing amount is counted for
the other one. -/
theorem medianByRegion_misreads :
    (medianByRegion "orders_amount").checkIn paidScope = .ok () ∧
      ((medianByRegion "orders_amount").path .sqlite).isFallback = true ∧
      ¬(((medianByRegion "orders_amount").rawQuery.body "orders").items.map SelectItem.name).Nodup ∧
      unpaid (.ofField "orders.amount") = .null ∧
      Aggregate.compute ⟨"orders.amount", .count, "n", none⟩
          [((medianByRegion "orders_amount").rawQuery.body "orders").row unpaid] = .int 1 ∧
      Aggregate.compute ⟨"orders.amount", .count, "n", none⟩ [ownRow "orders.amount" unpaid] =
        .int 0 :=
  ⟨rfl, rfl, by decide, rfl, rfl, rfl⟩

end TableQuery
