import Mathlib.Data.List.Nodup
import TableQuery.Proofs.Query.FieldNames

namespace TableQuery

theorem find?_key_eq_some {α : Type} {key : α → String} {items : List α}
    (hn : (items.map key).Nodup) {x : α} (hx : x ∈ items) :
    (items.find? fun y => key y = key x) = some x := by
  cases hf : items.find? fun y => key y = key x with
  | none => simpa using List.find?_eq_none.mp hf x hx
  | some y =>
      have hk : key y = key x := by simpa using List.find?_some hf
      rw [List.inj_on_of_nodup_map hn (List.mem_of_find?_eq_some hf) hx hk]

theorem find?_key_isSome {α : Type} {key : α → String} {items : List α} {name : String} :
    (items.find? fun y => key y = name).isSome ↔ name ∈ items.map key := by
  simp [List.find?_isSome]

def SelectField.column? : SelectField → Option String
  | .column field => some field
  | _ => none

namespace Query

variable {q : Query}

def windowLabelled (q : Query) (label : String) : Option WindowField :=
  q.windows.find? fun w => w.label = label

/-- The fields that have an output column of their own, the selected ones first. -/
def columnFields (q : Query) : List String :=
  q.baseSelect.filterMap SelectField.column? ++ q.implicitBuckets.map Prod.fst

theorem mem_baseSelect {f : SelectField} :
    f ∈ q.baseSelect ↔ f ∈ q.select ∧ f.isWindow = false := by
  simp [baseSelect]

theorem mem_aggregates {a : AggregateField} : a ∈ q.aggregates ↔ .aggregate a ∈ q.baseSelect := by
  rw [aggregates, List.mem_filterMap, mem_baseSelect]
  constructor
  · rintro ⟨f, hf, ha⟩
    cases f with
    | aggregate b =>
        obtain rfl := Option.some.inj ha
        exact ⟨hf, rfl⟩
    | _ => cases ha
  · rintro ⟨hf, _⟩
    exact ⟨_, hf, rfl⟩

theorem mem_columnFields {field : String} :
    field ∈ q.columnFields ↔
      .column field ∈ q.baseSelect ∨ ∃ b, (field, b) ∈ q.implicitBuckets := by
  have hc : (∃ f ∈ q.baseSelect, f.column? = some field) ↔ .column field ∈ q.baseSelect := by
    constructor
    · rintro ⟨f, hf, hs⟩
      cases f with
      | column other =>
          obtain rfl := Option.some.inj hs
          exact hf
      | _ => cases hs
    · intro hf
      exact ⟨_, hf, rfl⟩
  rw [columnFields, List.mem_append, List.mem_filterMap, hc]
  simp

theorem not_selected_of_implicit {field : String} {b : Bucket}
    (h : (field, b) ∈ q.implicitBuckets) : .column field ∉ q.baseSelect := by
  intro hs
  have hf := (List.mem_filter.mp h).2
  simp only [Bool.not_eq_true', List.any_eq_false] at hf
  exact hf _ (mem_baseSelect.mp hs).1 (by simp [SelectField.selects])

theorem map_filterMap_baseSelect {β : Type} {f : SelectField → Option β} {name : β → String}
    (h : ∀ x, x.isWindow = false → (f x).map name = some x.outputName) :
    (q.baseSelect.filterMap f).map name = q.baseSelect.map SelectField.outputName := by
  rw [List.map_filterMap, ← List.filterMap_eq_map]
  apply List.filterMap_congr
  intro x hx
  exact h x (mem_baseSelect.mp hx).2

theorem mem_baseColumns {name : String} :
    name ∈ q.baseColumns ↔
      (∃ field ∈ q.columnFields, outputName field = name) ∨ ∃ a ∈ q.aggregates, a.label = name := by
  simp only [baseColumns, List.mem_append, List.mem_map, mem_columnFields, mem_aggregates]
  constructor
  · rintro (⟨b, hb, rfl⟩ | ⟨f, hf, rfl⟩)
    · exact .inl ⟨b.1, .inr ⟨b.2, hb⟩, rfl⟩
    · cases f with
      | column field => exact .inl ⟨field, .inl hf, rfl⟩
      | aggregate a => exact .inr ⟨a, hf, rfl⟩
      | window w => cases (mem_baseSelect.mp hf).2
  · rintro (⟨field, hf | ⟨b, hb⟩, rfl⟩ | ⟨a, ha, rfl⟩)
    · exact .inr ⟨_, hf, rfl⟩
    · exact .inl ⟨_, hb, rfl⟩
    · exact .inr ⟨_, ha, rfl⟩

end Query
end TableQuery
