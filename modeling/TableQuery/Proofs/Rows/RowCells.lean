import TableQuery.Proofs.Query.OutputColumns
import TableQuery.Rows.Interpretation

namespace TableQuery

section EraseDups

variable {α : Type} [BEq α] [LawfulBEq α]

theorem nodup_eraseDups : ∀ xs : List α, xs.eraseDups.Nodup
  | [] => by simp
  | x :: xs => by
      rw [List.eraseDups_cons, List.nodup_cons]
      exact ⟨by simp [List.mem_eraseDups], nodup_eraseDups _⟩
termination_by xs => xs.length
decreasing_by exact Nat.lt_succ_of_le (List.length_filter_le _ xs)

theorem eraseDups_of_nodup {xs : List α} (h : xs.Nodup) : xs.eraseDups = xs := by
  induction xs with
  | nil => rfl
  | cons x xs ih =>
      obtain ⟨hx, hxs⟩ := List.nodup_cons.mp h
      have hf : xs.filter (fun y => !y == x) = xs := by
        rw [List.filter_eq_self]
        intro y hy
        simpa using ne_of_mem_of_not_mem hy hx
      rw [List.eraseDups_cons, hf, ih hxs]

theorem eraseDups_perm {xs ys : List α} (h : xs.Perm ys) : xs.eraseDups.Perm ys.eraseDups := by
  rw [List.perm_ext_iff_of_nodup (nodup_eraseDups xs) (nodup_eraseDups ys)]
  intro x
  rw [List.mem_eraseDups, List.mem_eraseDups, h.mem_iff]

end EraseDups

namespace Row

theorem find?_putField (name column : String) (j : Json) (cells : List (String × Json)) :
    ((Json.putField name j cells).find? fun c => c.1 = column).map (·.2) =
      if name = column then some j else (cells.find? fun c => c.1 = column).map (·.2) := by
  induction cells with
  | nil => by_cases hc : name = column <;> simp [Json.putField, hc]
  | cons cell rest ih =>
      obtain ⟨other, k⟩ := cell
      by_cases ho : other = name
      · subst ho
        by_cases hc : other = column <;> simp [Json.putField, hc]
      · simp only [Json.putField, ho, if_false]
        by_cases hc : other = column
        · subst hc
          simp [Ne.symm ho]
        · simpa [hc] using ih

theorem get?_put (r : Row) (name column : String) (j : Json) :
    (r.put name j).get? column = if name = column then some j else r.get? column :=
  find?_putField name column j r.cells

theorem isSome_get?_foldl_put (pairs : List (String × Json)) (r : Row) (column : String) :
    ((pairs.foldl (fun r p => r.put p.1 p.2) r).get? column).isSome ↔
      column ∈ pairs.map Prod.fst ∨ (r.get? column).isSome := by
  induction pairs generalizing r with
  | nil => simp
  | cons p rest ih =>
      rw [List.foldl_cons, ih, get?_put, List.map_cons, List.mem_cons]
      by_cases hc : column = p.1
      · subst hc
        simp
      · simp [hc, Ne.symm hc]

theorem isSome_get?_ofPairs (pairs : List (String × Json)) (column : String) :
    ((ofPairs pairs).get? column).isSome ↔ column ∈ pairs.map Prod.fst := by
  rw [ofPairs, isSome_get?_foldl_put]
  simp [get?]

theorem get?_foldl_put_of_not_mem {pairs : List (String × Json)} {column : String}
    (h : column ∉ pairs.map Prod.fst) (r : Row) :
    (pairs.foldl (fun r p => r.put p.1 p.2) r).get? column = r.get? column := by
  induction pairs generalizing r with
  | nil => rfl
  | cons p rest ih =>
      obtain ⟨hp, hrest⟩ : ¬column = p.1 ∧ column ∉ rest.map Prod.fst := by
        simpa only [List.map_cons, List.mem_cons, not_or] using h
      rw [List.foldl_cons, ih hrest, get?_put, if_neg (Ne.symm hp)]

theorem get?_foldl_put_of_mem {pairs : List (String × Json)}
    (hn : (pairs.map Prod.fst).Nodup) {p : String × Json} (hp : p ∈ pairs) (r : Row) :
    (pairs.foldl (fun r p => r.put p.1 p.2) r).get? p.1 = some p.2 := by
  induction pairs generalizing r with
  | nil => cases hp
  | cons other rest ih =>
      obtain ⟨hother, hrest⟩ := List.nodup_cons.mp hn
      rw [List.foldl_cons]
      rcases List.mem_cons.mp hp with rfl | hp
      · rw [get?_foldl_put_of_not_mem hother, get?_put, if_pos rfl]
      · exact ih hrest hp _

/-- With distinct columns no cell overwrites another one. -/
theorem get?_ofPairs {pairs : List (String × Json)} (hn : (pairs.map Prod.fst).Nodup)
    {p : String × Json} (hp : p ∈ pairs) : (ofPairs pairs).get? p.1 = some p.2 :=
  get?_foldl_put_of_mem hn hp _

theorem compareOn_congr {orderBy : List OrderTerm} {a b a' b' : Row}
    (h : ∀ t ∈ orderBy, a.get? (outputName t.field) = a'.get? (outputName t.field) ∧
      b.get? (outputName t.field) = b'.get? (outputName t.field)) :
    compareOn a b orderBy = compareOn a' b' orderBy := by
  induction orderBy with
  | nil => rfl
  | cons t rest ih =>
      obtain ⟨ht, hr⟩ := List.forall_mem_cons.mp h
      simp only [compareOn, ht.1, ht.2, ih hr]

end Row

namespace Query

theorem groupCells_columns (q : Query) (g : Group) :
    (q.groupCells g).map Prod.fst = q.baseColumns := by
  rw [groupCells, List.map_append, List.map_map, baseColumns]
  congr 1
  apply map_filterMap_baseSelect
  intro f hf
  cases f with
  | window w => cases hf
  | _ => rfl

theorem isSome_get?_groupRow (q : Query) (g : Group) (column : String) :
    ((q.groupRow g).get? column).isSome ↔ column ∈ q.baseColumns := by
  rw [groupRow, Row.isSome_get?_ofPairs, groupCells_columns]

theorem cell_groupRow {q : Query} {f : Filter} (h : outputName f.field ∈ q.baseColumns)
    (g : Group) :
    f.cell (q.groupRow g) = (q.groupRow g).get? (outputName f.field) := by
  obtain ⟨j, hj⟩ := Option.isSome_iff_exists.mp ((q.isSome_get?_groupRow g _).mpr h)
  rw [Filter.cell, hj, Option.some_or]

end Query
end TableQuery
