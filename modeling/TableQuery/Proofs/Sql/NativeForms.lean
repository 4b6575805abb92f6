import TableQuery.Proofs.Sql.References
import TableQuery.Proofs.Sql.SelectLists

namespace TableQuery

open Sql

namespace Sql

variable {d : Dialect}

/-- Every aggregate within the expression has a form in the dialect. -/
def Expr.Native (d : Dialect) : Expr → Prop
  | .numeric e => e.Native d
  | .truncated _ e => e.Native d
  | .aggregate a e => (d.aggregate? a (e.text d)).isSome = true ∧ e.Native d
  | _ => True

def SortTarget.value : SortTarget → Expr
  | .expr e => e
  | .window w => w.value

def Select.exprs (s : Select) : List Expr :=
  s.items.map SelectItem.expr ++ s.filter.map Condition.subject ++ s.groupBy ++
    s.having.map Condition.subject

def Statement.windows : Statement → List WindowCall
  | .plain _ _ => []
  | .windowed _ windows _ => windows.map Prod.fst

/-- What a statement selects, compares, groups and orders by, and what its windows read. -/
def Statement.exprs (s : Statement) : List Expr :=
  s.body.exprs ++ s.windows.map WindowCall.value ++ s.ending.orderBy.map fun t => t.1.value

theorem Expr.native_of_source {e : Expr} {c : ColumnRef} (h : e.source? = some c) :
    e.Native d := by
  cases e with
  | column c => trivial
  | truncated b e =>
      cases e with
      | column c => trivial
      | _ => cases h
  | _ => cases h

theorem Condition.native_subject_iff {c : Condition} : c.subject.Native d ↔ c.expr.Native d := by
  unfold subject
  split <;> rfl

end Sql

theorem Dialect.aggregate?_eq_none_iff {d : Dialect} {a : AggregateField} {e : String} :
    d.aggregate? a e = none ↔ d.lacks a = true := by
  unfold aggregate? lacks
  cases hs : d.supportsAggregate a.function with
  | false => simp
  | true => cases hf : a.function <;> simp [AggregateFunction.isPercentile]

theorem Dialect.text_aggregate_eq_placeholder_iff {d : Dialect} {a : AggregateField} {e : Expr} :
    (Expr.aggregate a e).text d = Expr.placeholder ↔ d.lacks a = true := by
  rw [← aggregate?_eq_none_iff (e := e.text d), Expr.text]
  cases ha : d.aggregate? a (e.text d) with
  | none => simp
  | some text =>
      have hn : ¬OpensWith termOpenings Expr.placeholder := by decide
      have ho := opensWith_aggregate ha
      simp only [Option.getD_some, reduceCtorEq, iff_false]
      exact fun he => hn (he ▸ ho)

namespace Query

variable {q : Query} {d : Dialect}

def placeholderLabels (q : Query) (d : Dialect) : List String :=
  q.selectItems.filterMap fun i => if i.expr.text d = Expr.placeholder then i.label else none

theorem text_ne_placeholder {e : Expr} {c : ColumnRef} (h : e.source? = some c) :
    e.text d ≠ Expr.placeholder := by
  have hn : ¬OpensWith termOpenings Expr.placeholder := by decide
  exact fun he => hn (he ▸ opensWith_source h d)

theorem aggregates_eq : q.aggregates = q.baseSelect.filterMap SelectField.aggregate? := by
  rw [aggregates, baseSelect, List.filterMap_filter]
  apply List.filterMap_congr
  intro f _
  cases f <;> rfl

theorem lackingLabels_eq_filterMap : q.lackingLabels d =
    q.aggregates.filterMap fun a => if d.lacks a then some a.label else none := by
  rw [lackingLabels, ← List.filterMap_eq_map, List.filterMap_filter]
  rfl

/-- In the order of the select list, an item is a placeholder exactly if its aggregate lacks. -/
theorem lackingLabels_eq_placeholderLabels : q.lackingLabels d = q.placeholderLabels d := by
  have hbuckets : (q.implicitBuckets.map bucketItem).filterMap (fun i =>
      if i.expr.text d = Expr.placeholder then i.label else none) = [] := by
    rw [List.filterMap_eq_nil_iff]
    intro i hi
    obtain ⟨b, -, rfl⟩ := List.mem_map.mp hi
    exact if_neg (text_ne_placeholder (c := .ofField b.1) rfl)
  rw [placeholderLabels, selectItems, List.filterMap_append, hbuckets, List.nil_append,
    lackingLabels_eq_filterMap, aggregates_eq, List.filterMap_filterMap, List.filterMap_filterMap]
  apply List.filterMap_congr
  intro f hf
  cases f with
  | column field =>
      obtain ⟨label, hl, -⟩ := q.exists_columnItem field
      simp [SelectField.aggregate?, hl, text_ne_placeholder (q.source?_fieldExpr field)]
  | aggregate a =>
      simp only [SelectField.aggregate?, selectItem, aggregateExpr, Option.bind_some,
        Dialect.text_aggregate_eq_placeholder_iff]
  | window w => cases (mem_baseSelect.mp hf).2

theorem lackingLabels_eq_nil_iff :
    q.lackingLabels d = [] ↔ ∀ a ∈ q.aggregates, d.lacks a = false := by
  simp [lackingLabels, List.filter_eq_nil_iff]

theorem capability_eq : q.capability d =
    if q.lackingLabels d = [] then .native else .requiresFallback (q.lackingLabels d) := by
  unfold capability
  cases q.lackingLabels d <;> rfl

theorem isFallback_path : (q.path d).isFallback = (q.capability d).isFallback := by
  unfold path
  cases (q.capability d).isFallback <;> cases q.hasWindows <;> rfl

theorem isFallback_path_iff : (q.path d).isFallback = true ↔ q.lackingLabels d ≠ [] := by
  rw [isFallback_path, capability_eq]
  split
  · next h => simp [h, Capability.isFallback]
  · next h => simp [h, Capability.isFallback]

theorem native_windowCall (w : WindowField) : (windowCall w).value.Native d := by
  unfold windowCall
  cases w.field <;> trivial

theorem exists_of_mem_windows {table : String} {capped : Bool} {w : WindowCall}
    (hw : w ∈ (q.statement table capped).windows) : ∃ v ∈ q.windows, windowCall v = w := by
  unfold statement at hw
  split at hw
  · rw [Statement.windows, List.map_map] at hw
    exact List.mem_map.mp hw
  · cases hw

section Native

variable (h : ∀ a ∈ q.aggregates, d.lacks a = false)

include h

theorem native_aggregateExpr {a : AggregateField} (ha : a ∈ q.aggregates) :
    (aggregateExpr a).Native d := by
  refine ⟨?_, trivial⟩
  rw [Option.isSome_iff_ne_none, Ne, Dialect.aggregate?_eq_none_iff, h a ha]
  exact Bool.false_ne_true

theorem native_outputExpr (name : String) : (q.outputExpr name).Native d := by
  unfold outputExpr
  split
  · next a ha => exact native_aggregateExpr h (aggregateLabelled_sound ha).1
  · split
    · next field _ => exact Expr.native_of_source (q.source?_fieldExpr field)
    · trivial

theorem native_body (table : String) {e : Expr} (he : e ∈ (q.body table).exprs) :
    e.Native d := by
  simp only [Select.exprs, body, List.mem_append, List.mem_map, exists_exists_and_eq_and] at he
  rcases he with ((⟨i, hi, rfl⟩ | ⟨f, -, rfl⟩) | ⟨g, -, rfl⟩) | ⟨f, -, rfl⟩
  · rcases mem_selectItems hi with ⟨c, hc⟩ | ⟨a, ha, rfl⟩
    · exact Expr.native_of_source hc
    · exact native_aggregateExpr h ha
  · exact Condition.native_subject_iff.mpr trivial
  · unfold groupExpr
    split <;> trivial
  · exact Condition.native_subject_iff.mpr (native_outputExpr h f.field)

theorem native_orderTarget (field : String) : (q.orderTarget field).value.Native d := by
  unfold orderTarget
  split
  · rw [windowedTarget_eq]
    split
    · exact native_windowCall _
    · trivial
  · exact native_outputExpr h field

theorem native_statement (table : String) (capped : Bool) :
    ∀ e ∈ (q.statement table capped).exprs, e.Native d := by
  intro e he
  rw [Statement.exprs, body_statement, statement_orderBy, List.map_map, List.mem_append,
    List.mem_append] at he
  rcases he with (he | he) | he
  · exact native_body h table he
  · obtain ⟨w, hw, rfl⟩ := List.mem_map.mp he
    obtain ⟨v, -, rfl⟩ := exists_of_mem_windows hw
    exact native_windowCall v
  · obtain ⟨t, -, rfl⟩ := List.mem_map.mp he
    exact native_orderTarget h t.field

end Native

theorem aggregateExpr_mem_exprs {a : AggregateField} (ha : a ∈ q.aggregates) (table : String)
    (capped : Bool) : aggregateExpr a ∈ (q.statement table capped).exprs := by
  have hi : (⟨aggregateExpr a, some a.label⟩ : SelectItem) ∈ q.selectItems := by
    rw [selectItems, List.mem_append, List.mem_filterMap]
    exact .inr ⟨_, mem_aggregates.mp ha, rfl⟩
  rw [Statement.exprs, body_statement, Select.exprs]
  simp only [List.mem_append]
  exact .inl (.inl (.inl (.inl (.inl (List.mem_map_of_mem (f := SelectItem.expr) hi)))))

theorem native_statement_iff (table : String) (capped : Bool) :
    (∀ e ∈ (q.statement table capped).exprs, e.Native d) ↔
      ∀ a ∈ q.aggregates, d.lacks a = false := by
  refine ⟨fun hn a ha => ?_, fun h => native_statement h table capped⟩
  have hs := (hn _ (aggregateExpr_mem_exprs ha table capped)).1
  rw [Option.isSome_iff_ne_none, Ne, Dialect.aggregate?_eq_none_iff, Bool.not_eq_true] at hs
  exact hs

end Query

/-- The reported labels are, in order, those of the aggregates that the dialect has no form of, and
those of the select list's placeholders. Without any the query is native; with any, and only then,
it runs over raw rows. So a statement that is sent for a native query has a form of every aggregate
in its select list, HAVING and ORDER BY. -/
theorem capability_matches_rendering (q : Query) (d : Dialect) (table : String) :
    q.lackingLabels d =
        (q.aggregates.filter fun a =>
          (d.aggregate? a ((Expr.ofField a.field).text d)).isNone).map AggregateField.label ∧
      q.lackingLabels d = q.placeholderLabels d ∧
      q.capability d =
        (if q.placeholderLabels d = [] then .native
          else .requiresFallback (q.placeholderLabels d)) ∧
      ((q.path d).isFallback = true ↔ q.placeholderLabels d ≠ []) ∧
      ∀ capped, (q.path d).isFallback = false ↔
        ∀ e ∈ (q.statement table capped).exprs, e.Native d := by
  have hlabels : q.lackingLabels d = q.placeholderLabels d :=
    Query.lackingLabels_eq_placeholderLabels
  refine ⟨?_, hlabels, ?_, ?_, fun capped => ?_⟩
  · rw [Query.lackingLabels]
    congr 1
    apply List.filter_congr
    intro a _
    rw [Bool.eq_iff_iff, Option.isNone_iff_eq_none, Dialect.aggregate?_eq_none_iff]
  · rw [← hlabels, Query.capability_eq]
  · rw [← hlabels, Query.isFallback_path_iff]
  · rw [Query.native_statement_iff, ← Query.lackingLabels_eq_nil_iff, ← Bool.not_eq_true,
      Query.isFallback_path_iff, not_not]

end TableQuery
