import Mathlib.Data.List.Nodup
import Mathlib.Tactic.Common
import TableQuery.Proofs.Validation.Acceptance
import TableQuery.Sources.Opening

namespace TableQuery.Csv

open Store (StoredColumn StoredTable Database)

def Holds (files : Files) (path : String) (headers : List String)
    (records : List (List String)) : Prop :=
  ∃ bytes, readBytes files path = .ok bytes ∧ headerOf (rawRecords bytes) = .ok headers ∧
    decodeRecords 1 ((rawRecords bytes).drop 1) = .ok records

/-- A file whose table the engine makes. -/
structure Loads (files : Files) (path : String) (headers : List String)
    (records : List (List String)) : Prop where
  holds : Holds files path headers records
  made : checkTable (tableOf (tableName path) headers records) = .ok ()

def folderOf (name text : String) : Files :=
  ⟨[([name], .file (.bytes (text.toList.map fun c => c.toNat.toUInt8)))], []⟩

section Opening

variable {files : Files} {path : String}

theorem Holds.load_eq {headers : List String} {records : List (List String)}
    (h : Holds files path headers records) : load files path =
      (checkTable (tableOf (tableName path) headers records)).map
        fun _ => tableOf (tableName path) headers records := by
  obtain ⟨bytes, hbytes, hheaders, hrecords⟩ := h
  rw [← except_mapError_eq_ok (g := LoadError.badHeader path)] at hheaders
  rw [← except_mapError_eq_ok (g := LoadError.badRecord path)] at hrecords
  simp only [load, ofBytes, hbytes, hheaders, hrecords, bind, Except.bind, pure, Except.pure]
  cases checkTable (tableOf (tableName path) headers records) <;> rfl

theorem exists_loads {t : StoredTable} (h : load files path = .ok t) :
    ∃ headers records, Loads files path headers records ∧
      t = tableOf (tableName path) headers records := by
  obtain ⟨bytes, hbytes, h⟩ := except_exists_of_bind h
  obtain ⟨headers, hheaders, h⟩ := except_exists_of_bind h
  obtain ⟨records, hrecords, h⟩ := except_exists_of_bind h
  obtain ⟨_, hmade, h⟩ := except_exists_of_bind h
  cases h
  rw [except_mapError_eq_ok] at hheaders hrecords
  exact ⟨headers, records, ⟨⟨bytes, hbytes, hheaders, hrecords⟩, hmade⟩, rfl⟩

theorem exists_of_openCsv {s : Source} (h : Source.openCsv files path = .ok s) :
    ∃ headers records, Loads files path headers records ∧
      s = Source.ofDatabase ⟨[tableOf (tableName path) headers records]⟩ := by
  rw [Source.openCsv] at h
  cases hl : load files path with
  | error e => simp [hl] at h
  | ok t =>
      obtain ⟨headers, records, hloads, rfl⟩ := exists_loads hl
      simp only [hl, Except.ok.injEq] at h
      exact ⟨headers, records, hloads, h.symm⟩

variable {headers : List String} {records : List (List String)}

theorem Loads.openCsv (h : Loads files path headers records) : Source.openCsv files path =
    .ok (Source.ofDatabase ⟨[tableOf (tableName path) headers records]⟩) := by
  rw [Source.openCsv, h.holds.load_eq, h.made]
  rfl

theorem Holds.unique {headers' : List String} {records' : List (List String)}
    (h : Holds files path headers records) (h' : Holds files path headers' records') :
    headers' = headers ∧ records' = records := by
  obtain ⟨bytes, hbytes, hheaders, hrecords⟩ := h
  obtain ⟨bytes', hbytes', hheaders', hrecords'⟩ := h'
  obtain rfl := Except.ok.inj (hbytes'.symm.trans hbytes)
  exact ⟨Except.ok.inj (hheaders'.symm.trans hheaders),
    Except.ok.inj (hrecords'.symm.trans hrecords)⟩

end Opening

section Checks

variable {t : StoredTable}

theorem nodup_of_checkNames {seen : List (List Char)} {names : List String}
    (h : checkNames t seen names = .ok ()) :
    (names.map Store.upper).Nodup ∧ ∀ name ∈ names, Store.upper name ∉ seen := by
  fun_induction checkNames t seen names with
  | case1 seen => simp
  | case2 | case3 | case4 => cases h
  | case5 seen name rest hz hroom hnew ih =>
      obtain ⟨hrest, hseen⟩ := ih h
      have hnot : Store.upper name ∉ seen := by simpa using hnew
      rw [List.map_cons, List.nodup_cons, List.forall_mem_cons]
      refine ⟨⟨?_, hrest⟩, hnot, fun other ho hm => hseen other ho (List.mem_cons_of_mem _ hm)⟩
      rw [List.mem_map]
      rintro ⟨other, ho, he⟩
      exact hseen other ho (he ▸ List.mem_cons_self)

theorem not_reserved_of_checkTable (h : checkTable t = .ok ()) : isReserved t.name = false := by
  rw [checkTable] at h
  split at h
  · cases h
  · simp_all

theorem nodup_upper_of_checkTable (h : checkTable t = .ok ()) :
    (t.columnNames.map Store.upper).Nodup := by
  rw [checkTable, if_neg (by simp [not_reserved_of_checkTable h])] at h
  split at h
  · cases h
  · exact (nodup_of_checkNames h).1

theorem nodup_of_checkTable (h : checkTable t = .ok ()) : t.columnNames.Nodup :=
  (nodup_upper_of_checkTable h).of_map _

end Checks

section Names

theorem isWordChar_of_mem_tableName {path : String} {c : Char} (h : c ∈ (tableName path).toList) :
    isWordChar c = true := by
  rw [tableName] at h
  split at h
  · have hall : "data".toList.all isWordChar = true := by decide +kernel
    exact List.all_eq_true.mp hall c h
  · rw [String.toList_map, List.mem_map] at h
    obtain ⟨d, -, rfl⟩ := h
    split
    · assumption
    · decide

theorem not_catalog_of_not_reserved {name : String} (h : isReserved name = false) :
    Database.catalogNames.any (Store.sameName name) = false := by
  rw [List.any_eq_false]
  intro other ho hs
  have hreserved : ∀ other ∈ Database.catalogNames, isReserved other = true := by decide
  have he : Store.upper name = Store.upper other := by simpa [Store.sameName] using hs
  have hr := hreserved other ho
  rw [isReserved, ← he] at hr
  rw [isReserved, hr] at h
  cases h

theorem table?_single {t : StoredTable} (h : isReserved t.name = false) :
    Database.table? ⟨[t]⟩ t.name = some t := by
  rw [Database.table?, not_catalog_of_not_reserved h]
  simp [Store.sameName]

end Names

section Columns

variable (name : String) (headers : List String) (records : List (List String))

theorem length_columnNames : (columnNames headers).length = headers.length := by
  have h (index : Nat) (taken : List String) :
      (columnNamesFrom index taken headers).length = headers.length := by
    induction headers generalizing index taken with
    | nil => rfl
    | cons header rest ih => simp [columnNamesFrom, ih]
  exact h 0 []

theorem length_columnTypes (count : Nat) : (columnTypes count records).length = count := by
  simp [columnTypes]

theorem constraints_of_mem_storedColumns {names : List String} {types : List ColumnType}
    {c : StoredColumn} (hc : c ∈ storedColumns names types) :
    c.declaration.constraints = [] := by
  obtain ⟨i, hi, rfl⟩ := List.getElem_of_mem hc
  simp [storedColumns, Store.Declaration.ofType]

theorem tableOf_eq : tableOf name headers records =
    let types := columnTypes headers.length records
    let t : StoredTable := ⟨name, storedColumns (columnNames headers) types, [], []⟩
    { t with rows := (records.map (rowValues types)).map t.kept } := by
  have hnone : StoredTable.numberColumn? ⟨name, storedColumns (columnNames headers)
      (columnTypes headers.length records), [], []⟩ = none := by
    rw [StoredTable.numberColumn?, List.findIdx?_eq_none_iff]
    intro c hc
    simp [Store.Declaration.isRowNumber, constraints_of_mem_storedColumns hc]
  rw [tableOf, StoredTable.insertAll, hnone]
  rfl

theorem name_tableOf : (tableOf name headers records).name = name := by
  rw [tableOf_eq]

theorem columns_tableOf : (tableOf name headers records).columns =
    storedColumns (columnNames headers) (columnTypes headers.length records) := by
  rw [tableOf_eq]

theorem references_tableOf : (tableOf name headers records).references = [] := by
  rw [tableOf_eq]

theorem length_columnNames_eq :
    (columnNames headers).length = (columnTypes headers.length records).length := by
  rw [length_columnNames, length_columnTypes]

theorem columnNames_tableOf :
    (tableOf name headers records).columnNames = columnNames headers := by
  rw [StoredTable.columnNames, columns_tableOf, storedColumns, ← List.map_uncurry_zip_eq_zipWith,
    List.map_map]
  exact List.map_fst_zip (Nat.le_of_eq (length_columnNames_eq headers records))

theorem affinities_tableOf : (tableOf name headers records).affinities =
    (columnTypes headers.length records).map fun type => type.declared.affinity := by
  have hle := Nat.le_of_eq (length_columnNames_eq headers records).symm
  rw [StoredTable.affinities, columns_tableOf, storedColumns, ← List.map_uncurry_zip_eq_zipWith,
    List.map_map]
  nth_rewrite 2 [← List.map_snd_zip hle]
  rw [List.map_map]
  rfl

theorem rows_tableOf :
    let t := tableOf name headers records
    t.rows = records.map fun record =>
      t.kept (rowValues (columnTypes headers.length records) record) := by
  rw [tableOf_eq]
  simp only [List.map_map]
  rfl

end Columns

section Cells

theorem getElem?_rowValues (types : List ColumnType) (record : List String) (index : Nat) :
    (rowValues types record)[index]? =
      types[index]?.map fun type => (record[index]?.map (convert type)).getD .null := by
  fun_induction rowValues types record generalizing index with
  | case1 record => simp
  | case2 type types ih => cases index <;> simp [ih]
  | case3 type types cell cells ih => cases index <;> simp [ih]

theorem getElem?_kept {name : String} {headers : List String} {records : List (List String)}
    {index : Nat} {type : ColumnType}
    (h : (columnTypes headers.length records)[index]? = some type) (record : List String) :
    ((tableOf name headers records).kept
        (rowValues (columnTypes headers.length records) record))[index]? =
      some (((record[index]?.map (convert type)).getD .null).keptBy type.declared.affinity) := by
  rw [StoredTable.kept, affinities_tableOf, List.getElem?_zipWith, List.getElem?_map,
    getElem?_rowValues, h]
  rfl

end Cells
end TableQuery.Csv
