import TableQuery.Proofs.Csv.LoadedTables
import TableQuery.Proofs.Rows.FloatOrder
import TableQuery.Proofs.Store.WholeTables

namespace TableQuery

open Float.Model

theorem FloatOrder.isFinite_of_beq_zero {x : Float} (h : (x == 0) = true) : x.isFinite = true := by
  have hzero : (0 : Float).toModel.unpack = .zero .positive := rfl
  change x.toModel.unpack.isFinite = true
  change UnpackedFloat.beq x.toModel.unpack ((0 : Float).toModel.unpack) = true at h
  rw [hzero] at h
  cases hu : x.toModel.unpack with
  | notANumber => rw [hu] at h; cases h
  | infinity s => rw [hu] at h; cases s <;> cases h
  | zero | finite => rfl

theorem Json.ofFloat_eq_null_iff {x : Float} : Json.ofFloat x = .null ↔ x.isFinite = false := by
  rw [Json.ofFloat]
  split <;> simp_all

theorem Store.Value.cell_real_eq_null_iff {x : Float} :
    ((Store.Value.real x).keptBy .real).cell = .null ↔ x.isFinite = false := by
  cases hn : x.isNaN with
  | true =>
      have hf : x.isFinite = false := by
        by_contra hf
        rw [FloatOrder.isNaN_of_isFinite (by simpa using hf)] at hn
        cases hn
      have hk : (Store.Value.real x).keptBy .real = .null := by
        simp only [Store.Value.keptBy, Store.Value.normal, hn]
        rfl
      rw [hk]
      exact iff_of_true rfl hf
  | false =>
      have hk : (Store.Value.real x).keptBy .real = if x == 0 then .real 0 else .real x := by
        simp only [Store.Value.keptBy, Store.Value.normal, hn]
        rfl
      rw [hk]
      split
      · rename_i hz
        have hzero : Json.ofFloat 0 ≠ .null := fun h => by
          rw [Json.ofFloat_eq_null_iff] at h
          cases h
        rw [FloatOrder.isFinite_of_beq_zero hz]
        exact iff_of_false hzero (by decide)
      · exact Json.ofFloat_eq_null_iff

theorem Source.answer_ofDatabase (d : Store.Database) (n : Nat) (sql : String) :
    (Source.ofDatabase d).answer n sql = d.answer sql := rfl

namespace Csv

/-- The number in a cell is infinite, or none at all. -/
def isUnbounded (cell : String) : Bool :=
  (Decimal.readFloat (Text.trimChars cell.toList)).any fun x => !x.isFinite

namespace ColumnType

def Reads (type : ColumnType) (cell : String) : Prop :=
  match type with
  | .integer => (integer? (Text.trimChars cell.toList)).isSome
  | .real => (Decimal.readFloat (Text.trimChars cell.toList)).isSome
  | .text => True

variable {cell : String} (hb : isBlankCell cell = false)

include hb

theorem reads_ofCells {cells : List String} (hm : cell ∈ cells) : (ofCells cells).Reads cell := by
  have hne : (Text.trimChars cell.toList).isEmpty = false := hb
  have hfilled : Text.trimChars cell.toList ∈
      (cells.map fun c => Text.trimChars c.toList).filter fun c => !c.isEmpty :=
    List.mem_filter.mpr ⟨List.mem_map.mpr ⟨cell, hm, rfl⟩, by rw [hne]; rfl⟩
  rw [ofCells]
  split
  · rename_i hall
    exact List.all_eq_true.mp hall _ hfilled
  · split
    · rename_i hall
      exact List.all_eq_true.mp hall _ hfilled
    · trivial

theorem cell_convert_eq_null_iff {type : ColumnType} (hr : type.Reads cell) :
    ((convert type cell).keptBy type.declared.affinity).cell = .null ↔
      type = .real ∧ isUnbounded cell = true := by
  have hne : (Text.trimChars cell.toList).isEmpty = false := hb
  unfold convert
  cases type with
  | integer =>
      obtain ⟨n, hn⟩ := Option.isSome_iff_exists.mp hr
      simp [hne, hn, declared, Store.DeclaredType.integer, Store.Value.keptBy, Store.Value.normal,
        Store.Value.toNumeric, Store.Value.cell]
  | real =>
      obtain ⟨x, hx⟩ := Option.isSome_iff_exists.mp hr
      have hu : isUnbounded cell = !x.isFinite := by rw [isUnbounded, hx]; rfl
      simp only [hne, hx, Option.map_some, Option.getD_some, hu, Bool.not_eq_true', true_and]
      exact Store.Value.cell_real_eq_null_iff
  | text =>
      simp [hne, declared, Store.DeclaredType.text, Store.Value.keptBy, Store.Value.normal,
        Store.Value.toText, Store.Value.cell]

end ColumnType

section Reading

variable {files : Files} {path : String} {headers : List String} {records : List (List String)}

theorem Loads.answer_wholeTable (h : Loads files path headers records) (n : Nat) :
    let t := tableOf (tableName path) headers records
    (Source.ofDatabase ⟨[t]⟩).answer n (Store.Read.wholeTable (tableName path)) =
      .ok (t.rows.map t.shown) := by
  intro t
  have hz : '\x00' ∉ (tableName path).toList := fun hm => by
    have hw := isWordChar_of_mem_tableName hm
    revert hw
    decide
  have ht : Store.Database.table? ⟨[t]⟩ (tableName path) = some t := by
    have hs := table?_single (not_reserved_of_checkTable h.made)
    rwa [name_tableOf] at hs
  rw [Source.answer_ofDatabase, Store.Database.answer_wholeTable hz ht]

theorem get?_shown_tableOf (name : String) {column : String}
    (hn : (columnNames headers).Nodup) {j : Nat} (hj : (columnNames headers)[j]? = some column)
    {type : ColumnType} (ht : (columnTypes headers.length records)[j]? = some type)
    {record : List String} {cell : String} (hcell : record[j]? = some cell) :
    let t := tableOf name headers records
    (t.shown (t.kept (rowValues (columnTypes headers.length records) record))).get? column =
      some ((convert type cell).keptBy type.declared.affinity).cell := by
  intro t
  have hnames : t.columnNames = columnNames headers := columnNames_tableOf name headers records
  rw [Store.StoredTable.get?_shown (hnames ▸ hn) (hnames ▸ hj), getElem?_kept ht, hcell]
  rfl

end Reading
end Csv

/-- A file that loads is read back as one row for each record. Each cell that is not blank has a
value there, but for the numbers that are not finite in a column of reals. -/
theorem csv_cells_kept_iff {files : Files} {path : String} {s : Source}
    (h : Source.openCsv files path = .ok s) :
    ∃ headers records, Csv.Holds files path headers records ∧
      ∃ rows : List Row,
        (∀ n, s.answer n (Store.Read.wholeTable (Csv.tableName path)) = .ok rows) ∧
        rows.length = records.length ∧
        ∀ (i j : Nat) (row : Row) (record : List String) (cell column : String),
          rows[i]? = some row → records[i]? = some record → record[j]? = some cell →
          (Csv.columnNames headers)[j]? = some column → Csv.ColumnType.isBlankCell cell = false →
          ∃ value, row.get? column = some value ∧
            (value = .null ↔ (Csv.columnTypes headers.length records)[j]? = some .real ∧
              Csv.isUnbounded cell = true) := by
  obtain ⟨headers, records, hloads, rfl⟩ := Csv.exists_of_openCsv h
  have hnames : (Csv.columnNames headers).Nodup := by
    have hn := Csv.nodup_of_checkTable hloads.made
    rwa [Csv.columnNames_tableOf] at hn
  refine ⟨headers, records, hloads.holds, _, hloads.answer_wholeTable, ?_, ?_⟩
  · rw [List.length_map, Csv.rows_tableOf, List.length_map]
  · intro i j row record cell column hrow hrecord hcell hcolumn hb
    have hj : j < headers.length := by
      rw [← Csv.length_columnNames]
      exact (List.getElem?_eq_some_iff.mp hcolumn).1
    have htype : (Csv.columnTypes headers.length records)[j]? =
        some (.ofCells (Csv.columnCells records j)) := by
      simp [Csv.columnTypes, hj]
    have hmem : cell ∈ Csv.columnCells records j :=
      List.mem_filterMap.mpr ⟨record, List.mem_of_getElem? hrecord, hcell⟩
    rw [Csv.rows_tableOf, List.getElem?_map, List.getElem?_map, hrecord] at hrow
    cases hrow
    refine ⟨_, Csv.get?_shown_tableOf _ hnames hcolumn htype hcell, ?_⟩
    rw [Csv.ColumnType.cell_convert_eq_null_iff hb (Csv.ColumnType.reads_ofCells hb hmem), htype,
      Option.some.injEq]

theorem score_of_ada_kept :
    ∃ s, Source.openCsv (Csv.folderOf "people.csv" "name,score\nAda,7.5\n") "people.csv" = .ok s ∧
      ∃ row value, s.answer 0 (Store.Read.wholeTable "people") = .ok [row] ∧
        row.get? "score" = some value ∧ value ≠ .null := by
  have hloads : Csv.Loads (Csv.folderOf "people.csv" "name,score\nAda,7.5\n") "people.csv"
      ["name", "score"] [["Ada", "7.5"]] :=
    ⟨⟨_, rfl, by decide +kernel, by decide +kernel⟩, except_isOk_iff.mp (by decide +kernel)⟩
  have hname : Csv.tableName "people.csv" = "people" := by decide +kernel
  have hopen := hloads.openCsv
  obtain ⟨headers, records, hholds, rows, hrows, hlength, hcells⟩ := csv_cells_kept_iff hopen
  obtain ⟨rfl, rfl⟩ := hloads.holds.unique hholds
  obtain ⟨row, rfl⟩ := List.length_eq_one_iff.mp hlength
  obtain ⟨value, hvalue, hnull⟩ := hcells 0 1 row _ "7.5" "score" rfl rfl rfl (by decide +kernel)
    (by decide +kernel)
  rw [hname] at hopen hrows
  refine ⟨_, hopen, row, value, hrows 0, hvalue, ?_⟩
  rw [ne_eq, hnull]
  exact fun h => absurd h.2 (by decide +kernel)

/-- A first name that is also how a number is written. -/
theorem name_of_nan_lost :
    ∃ s, Source.openCsv (Csv.folderOf "people.csv" "name,score\nNan,7\n") "people.csv" = .ok s ∧
      Csv.Holds (Csv.folderOf "people.csv" "name,score\nNan,7\n") "people.csv" ["name", "score"]
        [["Nan", "7"]] ∧
      Csv.ColumnType.isBlankCell "Nan" = false ∧
      ∃ row, s.answer 0 (Store.Read.wholeTable "people") = .ok [row] ∧
        row.get? "name" = some .null := by
  have hloads : Csv.Loads (Csv.folderOf "people.csv" "name,score\nNan,7\n") "people.csv"
      ["name", "score"] [["Nan", "7"]] :=
    ⟨⟨_, rfl, by decide +kernel, by decide +kernel⟩, except_isOk_iff.mp (by decide +kernel)⟩
  have hname : Csv.tableName "people.csv" = "people" := by decide +kernel
  have hb : Csv.ColumnType.isBlankCell "Nan" = false := by decide +kernel
  have hread : Csv.ColumnType.real.Reads "Nan" := by
    change (Decimal.readFloat _).isSome = true
    decide +kernel
  have hnull := (Csv.ColumnType.cell_convert_eq_null_iff hb hread).mpr ⟨rfl, by decide +kernel⟩
  have hnames : (Csv.columnNames ["name", "score"]).Nodup := by decide +kernel
  have hcolumn : (Csv.columnNames ["name", "score"])[0]? = some "name" := by decide +kernel
  have htype : (Csv.columnTypes 2 [["Nan", "7"]])[0]? = some .real := by decide +kernel
  have hrecord : ["Nan", "7"][0]? = some "Nan" := rfl
  have hcell := Csv.get?_shown_tableOf "people" hnames hcolumn htype hrecord
  have hopen := hloads.openCsv
  have hrows := hloads.answer_wholeTable 0
  rw [hnull] at hcell
  simp only [Csv.rows_tableOf, List.map_cons, List.map_nil, hname] at hrows
  rw [hname] at hopen
  exact ⟨_, hopen, hloads.holds, hb, _, hrows, hcell⟩

end TableQuery
