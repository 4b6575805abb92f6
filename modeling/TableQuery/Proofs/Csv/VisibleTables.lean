import TableQuery.Execution.Run
import TableQuery.Proofs.Csv.LoadedTables
import TableQuery.Proofs.Text.Searches

namespace TableQuery

namespace Store

/-- The name begins with the engine's own, in any case, and does not end there. -/
def Extends (name : String) (start : List Char) : Prop :=
  ∃ c rest, upper name = start ++ c :: rest

section Shown

variable {t : StoredTable}

theorem isHidden_iff : t.isHidden = true ↔ Extends t.name "SQLITE".toList := by
  unfold StoredTable.isHidden
  rw [Bool.and_eq_true, Text.startsWith_iff, decide_eq_true_iff]
  constructor
  · rintro ⟨⟨after, ha⟩, hl⟩
    cases after with
    | nil =>
        rw [← ha] at hl
        exact absurd hl (by decide)
    | cons c rest => exact ⟨c, rest, ha.symm⟩
  · rintro ⟨c, rest, hu⟩
    rw [hu]
    exact ⟨List.prefix_append _ _, by simp⟩

theorem schema_of_hidden (h : t.isHidden = true) : Database.schema ⟨[t]⟩ = ⟨[], []⟩ := by
  simp [Database.schema, Database.shownTables, h]

theorem schema_of_shown (h : t.isHidden = false) :
    Database.schema ⟨[t]⟩ = ⟨[t.describe], t.foreignKeys⟩ := by
  simp [Database.schema, Database.shownTables, h]

end Shown
end Store

namespace Csv

section Describing

variable (name : String) (headers : List String) (records : List (List String))

def describedTable : Table :=
  ⟨name, List.zipWith (fun column type => ⟨column, type.declared.name, true⟩)
    (columnNames headers) (columnTypes headers.length records)⟩

theorem describe_tableOf :
    (tableOf name headers records).describe = describedTable name headers records := by
  have hall : ∀ c ∈ storedColumns (columnNames headers) (columnTypes headers.length records),
      c.isShown = true := by
    intro c hc
    simp [Store.StoredColumn.isShown, constraints_of_mem_storedColumns hc]
  rw [Store.StoredTable.describe, name_tableOf, columns_tableOf, List.filter_eq_self.mpr hall,
    storedColumns, List.map_zipWith]
  rfl

theorem foreignKeys_tableOf : (tableOf name headers records).foreignKeys = [] := by
  have hnone : (storedColumns (columnNames headers) (columnTypes headers.length records)).flatMap
      Store.StoredColumn.references = [] := by
    rw [List.flatMap_eq_nil_iff]
    intro c hc
    simp [Store.StoredColumn.references, constraints_of_mem_storedColumns hc]
  rw [Store.StoredTable.foreignKeys, Store.StoredTable.allReferences, columns_tableOf, hnone,
    references_tableOf]
  rfl

end Describing
end Csv

def rowCount : Query where
  join := []
  select := [.aggregate ⟨"*", .count, "rows", none⟩]
  groupBy := []
  filter := []
  having := []
  orderBy := []
  limit := none

section Queries

variable {schema : Schema} {name : String}

theorem rowCount_check {t : Table} (ht : schema.table? name = some t) :
    rowCount.check schema name = .ok () := by
  have hin : rowCount.checkIn ⟨t, []⟩ = .ok () := rfl
  unfold Query.check
  rw [ht]
  exact except_mapError_eq_ok.mpr hin

theorem check_ne_ok (ht : schema.table? name = none) (q : Query) :
    q.check schema name ≠ .ok () := by
  unfold Query.check
  rw [ht, ne_eq, except_mapError_eq_ok, Query.checkSchema, ht]
  simp

end Queries

/-- The schema of a file that loads has its table alone, with the columns of the headers and their
types, or has nothing: then no query of it is accepted. -/
theorem csv_table_visible_iff {files : Files} {path : String} {s : Source}
    (h : Source.openCsv files path = .ok s) :
    ∃ headers records, Csv.Holds files path headers records ∧
      (s.schema = .ok ⟨[Csv.describedTable (Csv.tableName path) headers records], []⟩ ↔
        ¬Store.Extends (Csv.tableName path) "SQLITE".toList) ∧
      (Store.Extends (Csv.tableName path) "SQLITE".toList → s.schema = .ok ⟨[], []⟩) ∧
      ((∃ (q : Query) (schema : Schema), s.schema = .ok schema ∧
          q.check schema (Csv.tableName path) = .ok ()) ↔
        ¬Store.Extends (Csv.tableName path) "SQLITE".toList) := by
  obtain ⟨headers, records, hloads, rfl⟩ := Csv.exists_of_openCsv h
  let t := Csv.tableOf (Csv.tableName path) headers records
  have hhidden : t.isHidden = true ↔ Store.Extends (Csv.tableName path) "SQLITE".toList := by
    rw [Store.isHidden_iff, Csv.name_tableOf]
  refine ⟨headers, records, hloads.holds, ?_⟩
  rw [← hhidden]
  cases ht : t.isHidden with
  | true =>
      have hs : (Source.ofDatabase ⟨[t]⟩).schema = .ok ⟨[], []⟩ :=
        congrArg Except.ok (Store.schema_of_hidden ht)
      refine ⟨by simp [hs, t], fun _ => hs, iff_of_false ?_ (by simp)⟩
      rintro ⟨q, schema, hschema, hq⟩
      obtain rfl := Except.ok.inj (hs.symm.trans hschema)
      exact check_ne_ok rfl q hq
  | false =>
      have hs : (Source.ofDatabase ⟨[t]⟩).schema =
          .ok ⟨[Csv.describedTable (Csv.tableName path) headers records], []⟩ := by
        refine congrArg Except.ok ?_
        rw [Store.schema_of_shown ht, Csv.describe_tableOf, Csv.foreignKeys_tableOf]
      refine ⟨by simp [hs, t], by simp, iff_of_true ⟨rowCount, _, hs, ?_⟩ (by simp)⟩
      exact rowCount_check (List.find?_cons_of_pos (by simp [Csv.describedTable]))

theorem sales_table_visible :
    ∃ s, Source.openCsv (Csv.folderOf "sales.csv" "region,amount\neast,7\n") "sales.csv" = .ok s ∧
      s.schema =
        .ok ⟨[⟨"sales", [⟨"region", "TEXT", true⟩, ⟨"amount", "INTEGER", true⟩]⟩], []⟩ := by
  have hloads : Csv.Loads (Csv.folderOf "sales.csv" "region,amount\neast,7\n") "sales.csv"
      ["region", "amount"] [["east", "7"]] :=
    ⟨⟨_, rfl, by decide +kernel, by decide +kernel⟩, except_isOk_iff.mp (by decide +kernel)⟩
  obtain ⟨headers, records, hholds, hvisible, -⟩ := csv_table_visible_iff hloads.openCsv
  obtain ⟨rfl, rfl⟩ := hloads.holds.unique hholds
  have hstart : (Store.upper (Csv.tableName "sales.csv")).take 2 = ['S', 'A'] := by decide +kernel
  have hname : ¬Store.Extends (Csv.tableName "sales.csv") "SQLITE".toList := by
    rintro ⟨c, rest, h⟩
    rw [h] at hstart
    exact absurd hstart (by simp)
  have htable : Csv.describedTable (Csv.tableName "sales.csv") ["region", "amount"]
      [["east", "7"]] = ⟨"sales", [⟨"region", "TEXT", true⟩, ⟨"amount", "INTEGER", true⟩]⟩ := by
    decide +kernel
  exact ⟨_, hloads.openCsv, htable ▸ hvisible.mpr hname⟩

/-- The name is not reserved, but it begins like those that are. -/
theorem sqlitedata_table_hidden :
    ∃ s, Source.openCsv (Csv.folderOf "sqlitedata.csv" "a\n1\n") "sqlitedata.csv" = .ok s ∧
      s.schema = .ok ⟨[], []⟩ := by
  have hloads : Csv.Loads (Csv.folderOf "sqlitedata.csv" "a\n1\n") "sqlitedata.csv" ["a"]
      [["1"]] :=
    ⟨⟨_, rfl, by decide +kernel, by decide +kernel⟩, except_isOk_iff.mp (by decide +kernel)⟩
  refine ⟨_, hloads.openCsv, congrArg Except.ok (Store.schema_of_hidden ?_)⟩
  decide +kernel

end TableQuery
