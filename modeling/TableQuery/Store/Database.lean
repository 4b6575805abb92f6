import TableQuery.Schema.Basic
import TableQuery.Store.Declaration
import TableQuery.Store.Naming
import TableQuery.Store.Value

namespace TableQuery.Store

structure StoredColumn where
  name : String
  declaration : Declaration
  notNull : Bool
deriving DecidableEq, Repr

/-- A key without a target refers to the row numbers of the other table. -/
structure Reference where
  column : String
  table : String
  target : Option String
deriving DecidableEq, Repr

structure StoredTable where
  name : String
  columns : List StoredColumn
  references : List Reference
  rows : List (List Value)

structure Database where
  tables : List StoredTable

namespace Numbered

def numberOf (column : Nat) (row : List Value) : Int :=
  match row[column]? with
  | some (.integer n) => n
  | _ => 0

def next (column : Nat) (rows : List (List Value)) : Int :=
  ((rows.getLast?.map (numberOf column)).map (· + 1)).getD 1

def complete (column : Nat) (rows : List (List Value)) (row : List Value) : List Value :=
  match row[column]? with
  | some .null => row.set column (.integer (next column rows))
  | _ => row

def insert (column : Nat) (row : List Value) (rows : List (List Value)) : List (List Value) :=
  let row := complete column rows row
  let isBefore := fun other => numberOf column other < numberOf column row
  rows.takeWhile isBefore ++ row :: rows.dropWhile isBefore

end Numbered

namespace StoredColumn

def admitsNull (c : StoredColumn) : Bool :=
  !(c.notNull || c.declaration.constraints.contains .notNull)

def describe (c : StoredColumn) : Column := ⟨c.name, c.declaration.type.name, c.admitsNull⟩

/-- A generated column is read with the others, but a schema does not show it. -/
def isShown (c : StoredColumn) : Bool := !c.declaration.constraints.contains .generated

def referenceOf (c : StoredColumn) : Constraint → Option Reference
  | .references table target => some ⟨c.name, table, target⟩
  | _ => none

def references (c : StoredColumn) : List Reference :=
  c.declaration.constraints.filterMap c.referenceOf

end StoredColumn

namespace StoredTable

def columnNames (t : StoredTable) : List String := t.columns.map StoredColumn.name

def affinities (t : StoredTable) : List Affinity :=
  t.columns.map fun c => c.declaration.type.affinity

def kept (t : StoredTable) (row : List Value) : List Value :=
  List.zipWith Value.keptBy t.affinities row

def numberColumn? (t : StoredTable) : Option Nat :=
  t.columns.findIdx? fun c => c.declaration.isRowNumber

/-- Adds rows; without numbers they stay in the order in which they come. -/
def insertAll (t : StoredTable) (rows : List (List Value)) : StoredTable :=
  match t.numberColumn? with
  | none => { t with rows := t.rows ++ rows.map t.kept }
  | some column =>
    { t with rows := rows.foldl (fun placed row => Numbered.insert column (t.kept row) placed) t.rows }

def describe (t : StoredTable) : Table :=
  ⟨t.name, (t.columns.filter StoredColumn.isShown).map StoredColumn.describe⟩

def rowReference : String := "rowid"

def ownName (t : StoredTable) (column : String) : String :=
  (t.columnNames.find? (sameName column)).getD column

def describeReference (t : StoredTable) (r : Reference) : ForeignKey :=
  ⟨t.name, t.ownName r.column, r.table, r.target.getD rowReference⟩

/-- Those of the columns' own declarations come before the others. -/
def allReferences (t : StoredTable) : List Reference :=
  t.columns.flatMap StoredColumn.references ++ t.references

/-- The last declared key comes first. -/
def foreignKeys (t : StoredTable) : List ForeignKey :=
  t.allReferences.reverse.map t.describeReference

/-- Names that begin with `sqlite` and one more character are the engine's own. -/
def isHidden (t : StoredTable) : Bool :=
  let name := upper t.name
  Text.startsWith name "SQLITE".toList && 6 < name.length

def columnText (c : StoredColumn) : String :=
  let declared := c.declaration.text
  quoted c.name ++ (if declared.isEmpty then "" else " " ++ declared) ++
    (if c.notNull then " NOT NULL" else "")

def referenceText (r : Reference) : String :=
  "FOREIGN KEY (" ++ quoted r.column ++ ") REFERENCES " ++ quoted r.table ++
    (r.target.map fun target => " (" ++ quoted target ++ ")").getD ""

def creation (t : StoredTable) : String :=
  let parts := t.columns.map columnText ++ t.references.map referenceText
  "CREATE TABLE " ++ quoted t.name ++ " (" ++ String.intercalate ", " parts ++ ")"

end StoredTable

namespace Database

def empty : Database := ⟨[]⟩

def catalogNames : List String :=
  ["sqlite_master", "sqlite_schema", "sqlite_temp_master", "sqlite_temp_schema"]

/-- The tables take a page each, after that of the catalog itself. -/
def catalogRows (tables : List StoredTable) : List (List Value) :=
  tables.zipIdx.map fun (t, index) =>
    [.text "table", .text t.name, .text t.name, .integer (index + 2), .text t.creation]

def catalogColumns : List StoredColumn :=
  let column (name : String) (type : DeclaredType) : StoredColumn := ⟨name, .ofType type, false⟩
  [column "type" .text, column "name" .text, column "tbl_name" .text, column "rootpage" .int,
    column "sql" .text]

def catalog (d : Database) (name : String) : StoredTable :=
  let rows := if Text.containsChars "TEMP".toList (upper name) then [] else catalogRows d.tables
  ⟨name, catalogColumns, [], rows⟩

def table? (d : Database) (name : String) : Option StoredTable :=
  if catalogNames.any (sameName name) then some (d.catalog name)
  else d.tables.find? fun t => sameName t.name name

def isBefore (a b : StoredTable) : Bool := !(b.name < a.name)

def shownTables (d : Database) : List StoredTable :=
  (d.tables.filter fun t => !t.isHidden).mergeSort isBefore

def schema (d : Database) : Schema :=
  ⟨d.shownTables.map StoredTable.describe, d.shownTables.flatMap StoredTable.foreignKeys⟩

end Database
end TableQuery.Store
