import Mathlib.Data.List.Induction
import TableQuery.Proofs.Rows.RowCells

namespace TableQuery

namespace Row

theorem get?_ofPairs_eq (pairs : List (String × Json)) (column : String) :
    (ofPairs pairs).get? column = (pairs.reverse.find? fun p => p.1 = column).map Prod.snd := by
  induction pairs using List.reverseRecOn with
  | nil => rfl
  | append_singleton pairs p ih =>
      have hp : ofPairs (pairs ++ [p]) = (ofPairs pairs).put p.1 p.2 := by
        simp only [ofPairs, List.foldl_append, List.foldl_cons, List.foldl_nil]
      rw [hp, get?_put, ih, List.reverse_append, List.reverse_singleton, List.singleton_append]
      by_cases hc : p.1 = column
      · simp [hc]
      · simp [hc]

end Row

namespace Group

def Keyed (groupBy : List GroupField) (g : Group) : Prop := g.keys.length = groupBy.length

theorem isSome_keyOf {groupBy : List GroupField} {g : Group} (h : g.Keyed groupBy) {field : String} :
    (g.keyOf groupBy field).isSome ↔ field ∈ groupBy.map GroupField.field := by
  have hz : (groupBy.zip g.keys).map Prod.fst = groupBy :=
    List.map_fst_zip (Nat.le_of_eq h.symm)
  have hf : (groupBy.zip g.keys).map (fun p => p.1.field) = groupBy.map GroupField.field := by
    rw [← hz, List.map_map, hz]
    rfl
  rw [keyOf, Option.isSome_map, find?_key_isSome, hf]

end Group

namespace Query

variable {q : Query}

/-- What gives a group's row its cells: the added buckets and the select list without windows. -/
def entries (q : Query) : List SelectField :=
  q.implicitBuckets.map (fun b => .column b.1) ++ q.baseSelect

/-- The entry whose cell stands under a column, the last one of its name. -/
def entryFor? (q : Query) (column : String) : Option SelectField :=
  q.entries.reverse.find? fun f => f.outputName = column

def entryCell (q : Query) (g : Group) : SelectField → Json
  | .column field => q.groupCell g field
  | .aggregate a => Aggregate.compute a g.members
  | .window _ => .null

theorem mem_entries {f : SelectField} (h : f ∈ q.entries) :
    f ∈ q.baseSelect ∨ ∃ b ∈ q.implicitBuckets, f = .column b.1 := by
  rcases List.mem_append.mp h with h | h
  · obtain ⟨b, hb, rfl⟩ := List.mem_map.mp h
    exact .inr ⟨b, hb, rfl⟩
  · exact .inl h

theorem mem_entries_of_entryFor? {column : String} {f : SelectField}
    (h : q.entryFor? column = some f) : f ∈ q.entries ∧ f.outputName = column := by
  have hn := List.find?_some h
  exact ⟨List.mem_reverse.mp (List.mem_of_find?_eq_some h), by simpa using hn⟩

theorem bucketed_mem_of_implicit {b : String × Bucket} (h : b ∈ q.implicitBuckets) :
    .bucketed b.1 b.2 ∈ q.groupBy := by
  obtain ⟨g, hg, hb⟩ := List.mem_filterMap.mp (List.mem_filter.mp h).1
  cases g with
  | plain field => cases hb
  | bucketed field bucket =>
      obtain rfl := Option.some.inj hb
      exact hg

theorem field_mem_of_implicit {b : String × Bucket} (h : b ∈ q.implicitBuckets) :
    b.1 ∈ q.groupBy.map GroupField.field :=
  List.mem_map_of_mem (f := GroupField.field) (bucketed_mem_of_implicit h)

theorem groupCells_eq {g : Group} (h : g.Keyed q.groupBy) :
    q.groupCells g = q.entries.map fun f => (f.outputName, q.entryCell g f) := by
  rw [groupCells, entries, List.map_append, List.map_map]
  congr 1
  · apply List.map_congr_left
    intro b hb
    obtain ⟨key, hk⟩ :=
      Option.isSome_iff_exists.mp ((Group.isSome_keyOf h).mpr (field_mem_of_implicit hb))
    simp only [Function.comp_apply, entryCell, groupCell, hk, Option.getD_some,
      SelectField.outputName]
  · rw [← List.filterMap_eq_map]
    apply List.filterMap_congr
    intro f hf
    cases f with
    | window w => cases (mem_baseSelect.mp hf).2
    | _ => rfl

theorem get?_groupRow {g : Group} (h : g.Keyed q.groupBy) (column : String) :
    (q.groupRow g).get? column = (q.entryFor? column).map (q.entryCell g) := by
  rw [groupRow, Row.get?_ofPairs_eq, groupCells_eq h, ← List.map_reverse, List.find?_map,
    Option.map_map, entryFor?]
  rfl

end Query
end TableQuery
