import TableQuery.Proofs.Rows.RowCells
import TableQuery.Proofs.Text.Searches
import TableQuery.Store.Statement

namespace TableQuery.Store

section Tokens

variable {cs : List Char}

/-- Only a NUL breaks off a token. -/
theorem brokenFrom_eq_none (h : '\x00' ∉ cs) (start : Nat) (place : Place) :
    brokenFrom start place cs = none := by
  induction cs generalizing start place with
  | nil => rfl
  | cons c rest ih =>
      rw [List.mem_cons, not_or] at h
      rw [brokenFrom, if_neg (Ne.symm h.1)]
      exact ih h.2 _ _

theorem mem_quoted_iff {c : Char} (hc : c ≠ quote) (s : String) :
    c ∈ (quoted s).toList ↔ c ∈ s.toList := by
  have hd : (∃ d ∈ s.toList, c ∈ if d = quote then [d, d] else [d]) ↔ c ∈ s.toList := by
    grind
  simp [quoted, hc, hd]

end Tokens

namespace Read

theorem takeMark_append (mark : String) (rest : List Char) :
    takeMark mark (mark.toList ++ rest) = some rest := Text.dropStart?_eq_some_iff.mpr rfl

theorem takeQuoted_doubled (name : List Char) {rest : List Char} (h : rest.head? ≠ some quote) :
    takeQuoted (name.flatMap (fun c => if c = quote then [c, c] else [c]) ++ quote :: rest) =
      some (name, rest) := by
  induction name with
  | nil =>
      cases rest with
      | nil => rfl
      | cons d after =>
          have hd : d ≠ quote := fun hd => h (congrArg some hd)
          simp [takeQuoted, hd]
  | cons c cs ih =>
      rw [List.flatMap_cons, List.append_assoc]
      by_cases hc : c = quote
      · subst hc
        simp [takeQuoted, ih]
      · rw [if_neg hc, List.singleton_append, takeQuoted.eq_def]
        simp [hc, ih]

theorem takeName_quoted (name : String) {rest : List Char} (h : rest.head? ≠ some quote) :
    takeName ((quoted name).toList ++ rest) = some (name, rest) := by
  simp [quoted, takeName, takeQuoted_doubled name.toList h]

theorem ofText?_wholeTable (table : String) :
    ofText? (wholeTable table) = some ⟨none, table, none⟩ := by
  have ht : (wholeTable table).toList =
      "SELECT ".toList ++ ("*".toList ++ (" FROM ".toList ++ ((quoted table).toList ++ []))) := by
    rw [List.append_nil]
    exact String.toList_append
  have hn : takeName ((quoted table).toList ++ []) = some (table, []) :=
    takeName_quoted table (by simp)
  simp only [ofText?, takeTable, ht, takeMark_append, hn, Option.bind_eq_bind, Option.bind_some]
  rfl

end Read

namespace StoredTable

variable {t : StoredTable}

theorem map_fst_allOrigins (t : StoredTable) : t.allOrigins.map Prod.fst = t.columnNames := by
  simp [allOrigins, Function.comp_def]

def shown (t : StoredTable) (values : List Value) : Row :=
  .ofPairs (t.allOrigins.map fun o => (o.1, cellOf values o.2))

theorem get?_shown (hn : t.columnNames.Nodup) {index : Nat} {name : String}
    (h : t.columnNames[index]? = some name) (values : List Value) :
    (t.shown values).get? name = some ((values[index]?.map Value.cell).getD .null) := by
  have hnames : ((t.allOrigins.map fun o => (o.1, cellOf values o.2)).map Prod.fst) =
      t.columnNames := by
    rw [List.map_map]
    exact t.map_fst_allOrigins
  have hm : (name, index) ∈ t.columnNames.zipIdx := List.mem_zipIdx_iff_getElem?.mpr h
  have ho : (name, Origin.column index) ∈ t.allOrigins := List.mem_map.mpr ⟨_, hm, rfl⟩
  refine Row.get?_ofPairs (hnames ▸ hn) (p := (name, cellOf values (.column index))) ?_
  exact List.mem_map.mpr ⟨_, ho, rfl⟩

theorem fetch_whole (t : StoredTable) (name : String) :
    t.fetch ⟨none, name, none⟩ = .ok ⟨t.columnNames, t.rows.map t.shown⟩ := by
  rw [← t.map_fst_allOrigins]
  rfl

end StoredTable

theorem Database.answer_wholeTable {d : Database} {name : String} {t : StoredTable}
    (hz : '\x00' ∉ name.toList) (ht : d.table? name = some t) :
    d.answer (Read.wholeTable name) = .ok (t.rows.map t.shown) := by
  have hsql : '\x00' ∉ (Read.wholeTable name).toList := by
    intro h
    have happend : '\x00' ∈ "SELECT * FROM ".toList ++ (quoted name).toList :=
      String.toList_append ▸ h
    rcases List.mem_append.mp happend with h | h
    · exact absurd h (by decide)
    · exact hz ((mem_quoted_iff (by decide) name).mp h)
  have hb : brokenToken? (Read.wholeTable name) = none := brokenFrom_eq_none hsql 0 .outside
  simp only [answer, run, hb, Read.ofText?_wholeTable, fetch, ht, StoredTable.fetch_whole]
  rfl

end TableQuery.Store
