import TableQuery.Proofs.Rows.RowCells
import TableQuery.Proofs.Sql.SelectedColumns
import TableQuery.Proofs.Validation.Acceptance

namespace TableQuery

open Sql

def AggregateField.unlabelled (a : AggregateField) : AggregateField := { a with label := "" }

namespace Sql

def Expr.unlabelled : Expr → Expr
  | .aggregate a e => .aggregate a.unlabelled e.unlabelled
  | .numeric e => .numeric e.unlabelled
  | .truncated b e => .truncated b e.unlabelled
  | e => e

def SortTarget.unlabelled : SortTarget → SortTarget
  | .expr e => .expr e.unlabelled
  | .window w => .window w

theorem Expr.text_unlabelled (d : Dialect) (e : Expr) : e.unlabelled.text d = e.text d := by
  induction e with
  | numeric e ih => rw [unlabelled, text, text, ih]
  | truncated b e ih => rw [unlabelled, text, text, ih]
  | aggregate a e ih =>
      rw [unlabelled, text, text, ih]
      rfl
  | _ => rfl

theorem Expr.text_eq_of_unlabelled {e f : Expr} (h : e.unlabelled = f.unlabelled) (d : Dialect) :
    e.text d = f.text d := by
  rw [← e.text_unlabelled d, h, f.text_unlabelled d]

theorem SortTarget.text_unlabelled (d : Dialect) (t : SortTarget) :
    t.unlabelled.text d = t.text d := by
  cases t with
  | expr e => exact e.text_unlabelled d
  | window w => rfl

theorem SortTarget.text_eq_of_unlabelled {t u : SortTarget} (h : t.unlabelled = u.unlabelled)
    (d : Dialect) : t.text d = u.text d := by
  rw [← t.text_unlabelled d, h, u.text_unlabelled d]

end Sql

namespace Query

variable {q : Query}

/-- Whether a field's first grouping is the bucket that is added to the output for it. -/
def GroupedAsAdded (q : Query) (field : String) : Prop :=
  ∀ b, (field, b) ∈ q.implicitBuckets → q.bucketOf field = some b

/-- Whether what bears the reference's spelling is what has its output column: the aggregate
labelled so is written as that column's, or without such an aggregate the first field found so has
it. -/
def Resolves (q : Query) (field : String) : Prop :=
  match q.aggregateLabelled field with
  | some a =>
    (q.aggregateLabelled (outputName field)).map AggregateField.unlabelled = some a.unlabelled
  | none =>
    ∃ g, q.fieldNamed field = some g ∧ outputName g = outputName field ∧ q.GroupedAsAdded g

/-- Over the base rows only labels of windows are looked up as they are spelled. -/
def ResolvesInWindows (q : Query) (field : String) : Prop :=
  (q.windowLabelled field).map windowCall = (q.windowLabelled (outputName field)).map windowCall

def OrderResolves (q : Query) (field : String) : Prop :=
  if q.hasWindows then q.ResolvesInWindows field else q.Resolves field

def orderTarget (q : Query) (field : String) : SortTarget :=
  if q.hasWindows then q.windowedTarget field else .expr (q.outputExpr field)

theorem fieldExpr_eq_truncated_iff {field : String} {b : Bucket} :
    q.fieldExpr field = .truncated b (.ofField field) ↔ q.bucketOf field = some b := by
  unfold fieldExpr
  split
  · next b' hb => simp [hb]
  · next hb => simp [hb, Expr.ofField]

theorem unlabelled_fieldExpr (field : String) :
    (q.fieldExpr field).unlabelled = q.fieldExpr field := by
  unfold fieldExpr
  split <;> rfl

theorem unlabelled_aggregateExpr_inj {a b : AggregateField} :
    (aggregateExpr a).unlabelled = (aggregateExpr b).unlabelled ↔ a.unlabelled = b.unlabelled := by
  constructor
  · intro h
    exact (Expr.aggregate.inj h).1
  · intro h
    change Expr.aggregate a.unlabelled (.ofField a.unlabelled.field) = _
    rw [h]
    rfl

theorem eq_of_source?_fieldExpr {e : Expr} {field other : String}
    (he : e.source? = some (.ofField field)) (h : q.fieldExpr other = e) : other = field := by
  rw [← h, source?_fieldExpr] at he
  exact ColumnRef.ofField_injective (Option.some.inj he)

theorem aggregateLabelled_sound {label : String} {a : AggregateField}
    (h : q.aggregateLabelled label = some a) : a ∈ q.aggregates ∧ a.label = label :=
  ⟨List.mem_of_find?_eq_some h, by simpa using List.find?_some h⟩

theorem fieldNamed_sound {name field : String} (h : q.fieldNamed name = some field) :
    field ∈ q.columnFields ∧ (field = name ∨ outputName field = name) := by
  rw [fieldNamed_eq_find?] at h
  exact ⟨List.mem_of_find?_eq_some h, by simpa [produces] using List.find?_some h⟩

theorem fieldNamed_ne_none {field : String} (h : field ∈ q.columnFields) :
    q.fieldNamed field ≠ none := by
  rw [fieldNamed_eq_find?]
  intro hf
  simpa [produces] using List.find?_eq_none.mp hf field h

section Base

variable (hn : q.baseColumns.Nodup) (table : String)

include hn

theorem emitted?_field {field : String} (hf : field ∈ q.columnFields) :
    ∃ e, (q.body table).emitted? (outputName field) = some e ∧ e.unlabelled = e ∧
      e.source? = some (.ofField field) ∧ (q.fieldExpr field = e ↔ q.GroupedAsAdded field) := by
  rcases mem_columnFields.mp hf with hs | ⟨b, hb⟩
  · refine ⟨_, emitted?_column hn table hs, unlabelled_fieldExpr field, source?_fieldExpr field, ?_⟩
    simp only [true_iff]
    intro b hb
    exact absurd hs (not_selected_of_implicit hb)
  · have he := emitted?_bucket hn table hb
    refine ⟨_, he, rfl, rfl, ?_⟩
    rw [fieldExpr_eq_truncated_iff]
    constructor
    · intro h b' hb'
      have he' := emitted?_bucket hn table hb'
      rw [he] at he'
      rw [h, (Expr.truncated.inj (Option.some.inj he')).1]
    · intro h
      exact h b hb

theorem label_ne_outputName {a : AggregateField} (ha : a ∈ q.aggregates) {field : String}
    (hf : field ∈ q.columnFields) : a.label ≠ outputName field := by
  intro h
  obtain ⟨e, he, -, hs, -⟩ := emitted?_field hn "" hf
  rw [← h, emitted?_aggregate hn "" ha] at he
  obtain rfl := Option.some.inj he
  cases hs

theorem aggregateLabelled_of_mem {a : AggregateField} (ha : a ∈ q.aggregates) :
    q.aggregateLabelled a.label = some a := by
  cases h : q.aggregateLabelled a.label with
  | none => simpa using List.find?_eq_none.mp h a ha
  | some b =>
      obtain ⟨hb, hl⟩ := aggregateLabelled_sound h
      have he := emitted?_aggregate hn "" hb
      rw [hl, emitted?_aggregate hn "" ha] at he
      rw [(Expr.aggregate.inj (Option.some.inj he)).1]

theorem aggregateLabelled_outputName {field : String} (hf : field ∈ q.columnFields) :
    q.aggregateLabelled (outputName field) = none := by
  cases h : q.aggregateLabelled (outputName field) with
  | none => rfl
  | some a =>
      obtain ⟨ha, hl⟩ := aggregateLabelled_sound h
      exact absurd hl (label_ne_outputName hn ha hf)

theorem outputExpr_resolves_of_field {field g : String} (hg : g ∈ q.columnFields)
    (hgn : outputName g = outputName field) :
    ∃ e, (q.body table).emitted? (outputName field) = some e ∧
      ((q.outputExpr field).unlabelled = e.unlabelled ↔ q.Resolves field) := by
  obtain ⟨e, he, hu, hs, -⟩ := emitted?_field hn table hg
  refine ⟨e, hgn ▸ he, ?_⟩
  rw [hu]
  unfold outputExpr Resolves
  cases hl : q.aggregateLabelled field with
  | some a =>
      have hne : (aggregateExpr a).unlabelled ≠ e := by
        intro h
        rw [← h] at hs
        cases hs
      simp [hne, ← hgn, aggregateLabelled_outputName hn hg]
  | none =>
      cases hf : q.fieldNamed field with
      | none =>
          have hne : (Expr.ofField field).unlabelled ≠ e := by
            intro h
            rw [← h] at hs
            have hfg : field = g := ColumnRef.ofField_injective (Option.some.inj hs)
            exact fieldNamed_ne_none hg (hfg ▸ hf)
          simp [hne]
      | some h =>
          obtain ⟨hh, -⟩ := fieldNamed_sound hf
          obtain ⟨e', he', -, -, hb'⟩ := emitted?_field hn table hh
          simp only [unlabelled_fieldExpr]
          constructor
          · intro heq
            obtain rfl : h = g := eq_of_source?_fieldExpr hs heq
            rw [he] at he'
            obtain rfl := Option.some.inj he'
            exact ⟨h, rfl, hgn, hb'.mp heq⟩
          · rintro ⟨k, hk, hkn, hb⟩
            obtain rfl := Option.some.inj hk
            rw [hkn, ← hgn, he] at he'
            obtain rfl := Option.some.inj he'
            exact hb'.mpr hb

theorem outputExpr_resolves_of_aggregate {field : String} {a : AggregateField}
    (ha : a ∈ q.aggregates) (han : a.label = outputName field) :
    ∃ e, (q.body table).emitted? (outputName field) = some e ∧
      ((q.outputExpr field).unlabelled = e.unlabelled ↔ q.Resolves field) := by
  refine ⟨aggregateExpr a, han ▸ emitted?_aggregate hn table ha, ?_⟩
  unfold outputExpr Resolves
  cases hl : q.aggregateLabelled field with
  | some b =>
      simp only [← han, aggregateLabelled_of_mem hn ha, unlabelled_aggregateExpr_inj]
      simp [eq_comm]
  | none =>
      cases hf : q.fieldNamed field with
      | none => simp [aggregateExpr, Expr.unlabelled, Expr.ofField]
      | some g =>
          obtain ⟨hg, -⟩ := fieldNamed_sound hf
          have hne : outputName g ≠ outputName field := fun h =>
            label_ne_outputName hn ha hg (han.trans h.symm)
          have hs := q.source?_fieldExpr g
          have hne' : q.fieldExpr g ≠ (aggregateExpr a).unlabelled := by
            intro h
            rw [h] at hs
            cases hs
          simp [unlabelled_fieldExpr, hne, hne']

theorem outputExpr_resolves_iff {field : String} (hm : outputName field ∈ q.baseColumns) :
    ∃ e, (q.body table).emitted? (outputName field) = some e ∧
      ((q.outputExpr field).unlabelled = e.unlabelled ↔ q.Resolves field) := by
  rcases mem_baseColumns.mp hm with ⟨g, hg, hgn⟩ | ⟨a, ha, han⟩
  · exact outputExpr_resolves_of_field hn table hg hgn
  · exact outputExpr_resolves_of_aggregate hn table ha han

theorem outputName_injOn {g h : String} (hg : g ∈ q.columnFields) (hh : h ∈ q.columnFields)
    (he : outputName g = outputName h) : g = h := by
  obtain ⟨e, hge, -, hgs, -⟩ := emitted?_field hn "" hg
  obtain ⟨e', hhe, -, hhs, -⟩ := emitted?_field hn "" hh
  rw [he, hhe] at hge
  obtain rfl := Option.some.inj hge
  rw [hgs] at hhs
  exact ColumnRef.ofField_injective (Option.some.inj hhs)

end Base

section Windowed

theorem windowLabelled_isSome_iff {name : String} :
    (q.windowLabelled name).isSome ↔ name ∈ q.windows.map WindowField.label := find?_key_isSome

/-- Under a window's label stands its call, under any other name a column of the base rows. -/
theorem windowed_emitted? (hn : q.outputColumns.Nodup) (table : String) (ending : Ending)
    {name : String} (hm : name ∈ q.outputColumns) :
    (Statement.windowed (q.body table) (q.windows.map fun w => (windowCall w, w.label))
        ending).emitted? name =
      some (match q.windowLabelled name with
        | some w => .window (windowCall w)
        | none => .expr (.column (.ofBaseRows name))) := by
  obtain ⟨-, -, hd⟩ := List.nodup_append.mp hn
  by_cases hb : name ∈ q.baseColumns
  · have hw : q.windowLabelled name = none := by
      rw [← Option.not_isSome_iff_eq_none, windowLabelled_isSome_iff]
      exact fun h => hd _ hb _ h rfl
    simp only [Statement.emitted?, isSome_emitted?_iff, hb, hw, if_true]
  · have hw : (q.windowLabelled name).isSome := by
      rw [windowLabelled_isSome_iff]
      exact (List.mem_append.mp hm).resolve_left hb
    obtain ⟨w, hw⟩ := Option.isSome_iff_exists.mp hw
    have hf : (q.windows.find? fun w => w.label = name) = some w := hw
    have hc : ((q.windows.map fun w => (windowCall w, w.label)).find? fun c => c.2 = name) =
        some (windowCall w, w.label) := by
      rw [List.find?_map]
      exact congrArg (Option.map fun w => (windowCall w, w.label)) hf
    simp only [Statement.emitted?, isSome_emitted?_iff, hb, hw, hc, if_false, Option.map_some]

theorem windowedTarget_eq (field : String) :
    q.windowedTarget field =
      match q.windowLabelled field with
      | some w => .window (windowCall w)
      | none => .expr (.column (.ofBaseRows (outputName field))) := rfl

theorem windowedTarget_resolves_iff (hn : q.outputColumns.Nodup) (table : String) (ending : Ending)
    {field : String} (hm : outputName field ∈ q.outputColumns) :
    ∃ target,
      (Statement.windowed (q.body table) (q.windows.map fun w => (windowCall w, w.label))
        ending).emitted? (outputName field) = some target ∧
      ((q.windowedTarget field).unlabelled = target.unlabelled ↔ q.ResolvesInWindows field) := by
  refine ⟨_, windowed_emitted? hn table ending hm, ?_⟩
  rw [windowedTarget_eq, ResolvesInWindows]
  cases q.windowLabelled field <;> cases q.windowLabelled (outputName field) <;>
    simp [SortTarget.unlabelled]

end Windowed

theorem statement_orderBy (table : String) (capped : Bool) :
    (q.statement table capped).ending.orderBy =
      q.orderBy.map fun t => (q.orderTarget t.field, t.direction) := by
  unfold statement orderTarget
  cases q.hasWindows <;> rfl

theorem outputColumns_of_no_windows (h : q.hasWindows = false) :
    q.outputColumns = q.baseColumns := by
  have hw : q.windows = [] := by simpa [hasWindows] using h
  simp [outputColumns, hw]

theorem orderTarget_resolves_iff (hn : q.outputColumns.Nodup) (table : String) (capped : Bool)
    {field : String} (hm : outputName field ∈ q.outputColumns) :
    ∃ target, (q.statement table capped).emitted? (outputName field) = some target ∧
      ((q.orderTarget field).unlabelled = target.unlabelled ↔
        q.OrderResolves field) := by
  unfold statement orderTarget OrderResolves
  cases hw : q.hasWindows with
  | true => exact windowedTarget_resolves_iff hn table _ hm
  | false =>
      rw [outputColumns_of_no_windows hw] at hn hm
      obtain ⟨e, he, hr⟩ := outputExpr_resolves_iff hn table hm
      refine ⟨.expr e, ?_, ?_⟩
      · simp [Statement.emitted?, he]
      · simpa [SortTarget.unlabelled] using hr

end Query

open Query in
/-- Of a query that passes the check, the interpreter takes a reference for its output column. A
statement repeats for it what it selects under that column exactly if the reference resolves: what
is found under its spelling has to be what has the column. -/
theorem references_resolve_iff {q : Query} {s : Scope} (hc : q.checkIn s = .ok ())
    (ho : q.ordersOutputs = true) (table : String) (capped : Bool) :
    (∀ f ∈ q.having, ∀ g : Group, ((q.groupRow g).get? (outputName f.field)).isSome ∧
        f.cell (q.groupRow g) = (q.groupRow g).get? (outputName f.field)) ∧
      (∀ a b a' b' : Row,
        (∀ t ∈ q.orderBy, a.get? (outputName t.field) = a'.get? (outputName t.field) ∧
          b.get? (outputName t.field) = b'.get? (outputName t.field)) →
        Row.compareOn a b q.orderBy = Row.compareOn a' b' q.orderBy) ∧
      (∀ c ∈ (q.body table).having,
        ∃ e, (q.body table).emitted? (outputName c.filter.field) = some e ∧
          (c.expr.unlabelled = e.unlabelled ↔ q.Resolves c.filter.field) ∧
          (q.Resolves c.filter.field → ∀ d, c.expr.text d = e.text d)) ∧
      (q.statement table capped).ending.orderBy =
        q.orderBy.map (fun t => (q.orderTarget t.field, t.direction)) ∧
      ∀ t ∈ q.orderBy,
        ∃ target, (q.statement table capped).emitted? (outputName t.field) = some target ∧
          ((q.orderTarget t.field).unlabelled = target.unlabelled ↔ q.OrderResolves t.field) ∧
          (q.OrderResolves t.field → ∀ d, (q.orderTarget t.field).text d = target.text d) := by
  obtain ⟨-, -, -, -, hn, hh, -, hord⟩ := checkIn_eq_ok_iff.mp hc
  have hnb : q.baseColumns.Nodup := (List.nodup_append.mp hn).1
  refine ⟨?_, fun _ _ _ _ => Row.compareOn_congr, ?_, statement_orderBy table capped, ?_⟩
  · intro f hf g
    exact ⟨(q.isSome_get?_groupRow g _).mpr (hh f hf), cell_groupRow (hh f hf) g⟩
  · intro c hcond
    obtain ⟨f, hf, rfl⟩ := List.mem_map.mp hcond
    obtain ⟨e, he, hr⟩ := outputExpr_resolves_iff hnb table (hh f hf)
    exact ⟨e, he, hr, fun h d => Expr.text_eq_of_unlabelled (hr.mpr h) d⟩
  · intro t ht
    obtain ⟨target, he, hr⟩ :=
      orderTarget_resolves_iff hn table capped ((checkOrder_eq_ok_iff ho).mp (hord t ht))
    exact ⟨target, he, hr, fun h d => SortTarget.text_eq_of_unlabelled (hr.mpr h) d⟩

def amountsByRegion (label reference : String) : Query where
  join := []
  select := [.column "orders.region", .aggregate ⟨"amount", .sum, label, none⟩]
  groupBy := [.plain "orders.region"]
  filter := []
  having := [⟨label, .gt, some (.int 10)⟩]
  orderBy := [⟨reference, .asc⟩]
  limit := none

def ordersScope : Scope :=
  ⟨⟨"orders", [⟨"region", "TEXT", true⟩, ⟨"amount", "REAL", true⟩]⟩, []⟩

theorem region_resolves :
    (amountsByRegion "total" "orders.region").checkIn ordersScope = .ok () ∧
      (amountsByRegion "total" "orders.region").ordersOutputs = true ∧
      (∀ c ∈ ((amountsByRegion "total" "orders.region").body "orders").having,
        ∃ e, ((amountsByRegion "total" "orders.region").body "orders").emitted?
            (outputName c.filter.field) = some e ∧ ∀ d, c.expr.text d = e.text d) ∧
      ∀ t ∈ (amountsByRegion "total" "orders.region").orderBy,
        ∃ target, ((amountsByRegion "total" "orders.region").statement "orders" true).emitted?
            (outputName t.field) = some target ∧
          ∀ d, ((amountsByRegion "total" "orders.region").orderTarget t.field).text d =
            target.text d := by
  have hc : (amountsByRegion "total" "orders.region").checkIn ordersScope = .ok () := rfl
  have ho : (amountsByRegion "total" "orders.region").ordersOutputs = true := rfl
  have htotal : (amountsByRegion "total" "orders.region").Resolves "total" := rfl
  have hregion : (amountsByRegion "total" "orders.region").OrderResolves "orders.region" :=
    ⟨"orders.region", rfl, rfl, fun b hb => by cases hb⟩
  obtain ⟨-, -, hhaving, -, horder⟩ := references_resolve_iff hc ho "orders" true
  refine ⟨hc, ho, ?_, ?_⟩
  · intro c hm
    obtain ⟨e, he, -, ht⟩ := hhaving c hm
    obtain rfl := List.mem_singleton.mp hm
    exact ⟨e, he, ht htotal⟩
  · intro t hm
    obtain ⟨target, he, -, ht⟩ := horder t hm
    obtain rfl := List.mem_singleton.mp hm
    exact ⟨target, he, ht hregion⟩

/-- The column `orders_amount` holds a sum, and the reference to it is taken for a plain field. -/
theorem amount_misread :
    (amountsByRegion "orders_amount" "orders.amount").checkIn ordersScope = .ok () ∧
      outputName "orders.amount" = "orders_amount" ∧
      ((amountsByRegion "orders_amount" "orders.amount").statement "orders" true).emitted?
          "orders_amount" =
        some (.expr (.aggregate ⟨"amount", .sum, "orders_amount", none⟩
          (.column (.bare "amount")))) ∧
      (amountsByRegion "orders_amount" "orders.amount").orderTarget "orders.amount" =
        .expr (.column (.qualified "orders" "amount")) :=
  ⟨rfl, rfl, rfl, rfl⟩

end TableQuery
