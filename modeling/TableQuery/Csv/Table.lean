import TableQuery.Csv.Columns
import TableQuery.Csv.Reader
import TableQuery.Files
import TableQuery.Failure

namespace TableQuery.Csv

open Store (Value StoredColumn StoredTable Database)

inductive LoadError
  | unopened (path : String) (cause : FileError)
  | unreadableHeader (path : String) (cause : FileError)
  | badHeader (path : String) (cause : EncodingError)
  | badRecord (path : String) (cause : EncodingError)
  | notText (path : String)
  | reservedName (table : String)
  | noColumns (table : String)
  | tooManyColumns (table : String)
  | duplicateColumn (name : String)
  | brokenName (creation : String) (token : Store.OpenToken)

def refusal (message : String) : String :=
  "Failed to create table for CSV data: " ++ message ++ ": Error code 1: SQL logic error"

def LoadError.message : LoadError → String
  | .unopened path cause => "Failed to open CSV file " ++ path ++ ": " ++ cause.message
  | .unreadableHeader path cause => "Failed to read CSV header of " ++ path ++ ": " ++ cause.message
  | .badHeader path cause => "Failed to read CSV header of " ++ path ++ ": " ++ cause.message
  | .badRecord path cause => "Malformed CSV record in " ++ path ++ ": " ++ cause.message
  | .notText path => "Failed to read CSV header of " ++ path ++ ": not a text file"
  | .reservedName table => refusal ("object name reserved for internal use: " ++ table)
  | .noColumns table =>
    let creation := (StoredTable.mk table [] [] []).creation
    refusal (Store.reportAt (creation.utf8ByteSize - 1) "near \")\": syntax error" creation)
  | .tooManyColumns table => refusal ("too many columns on " ++ table)
  | .duplicateColumn name => refusal ("duplicate column name: " ++ name)
  | .brokenName creation token => refusal (token.report creation)

def LoadError.failure (e : LoadError) : Failure := ⟨.connection, e.message⟩

def isWordChar (c : Char) : Bool := c.isAlphanum || c = '_'

def tableName (path : String) : String :=
  let name := (Files.stem path).map fun c => if isWordChar c then c else '_'
  if name.isEmpty then "data" else name

def convert (type : ColumnType) (cell : String) : Value :=
  let trimmed := Text.trimChars cell.toList
  if trimmed.isEmpty then .null
  else
    match type with
    | .integer => ((ColumnType.integer? trimmed).map Value.integer).getD .null
    | .real => ((Decimal.readFloat trimmed).map Value.real).getD .null
    | .text => .text cell

def columnCells (records : List (List String)) (index : Nat) : List String :=
  records.filterMap fun record => record[index]?

def columnTypes (count : Nat) (records : List (List String)) : List ColumnType :=
  (List.range count).map fun index => .ofCells (columnCells records index)

def rowValues : List ColumnType → List String → List Value
  | [], _ => []
  | _ :: types, [] => .null :: rowValues types []
  | type :: types, cell :: cells => convert type cell :: rowValues types cells

def storedColumns (names : List String) (types : List ColumnType) : List StoredColumn :=
  List.zipWith (fun name type => ⟨name, .ofType type.declared, false⟩) names types

def tableOf (name : String) (headers : List String) (records : List (List String)) : StoredTable :=
  let types := columnTypes headers.length records
  StoredTable.insertAll ⟨name, storedColumns (columnNames headers) types, [], []⟩
    (records.map (rowValues types))

def greatestColumns : Nat := 2000

def hasNul (name : String) : Bool := name.toList.contains '\x00'

/-- The first problem of the names from left to right; `seen` holds those before, in capitals. -/
def checkNames (t : StoredTable) (seen : List (List Char)) :
    List String → Except LoadError Unit
  | [] => .ok ()
  | name :: rest =>
    match if hasNul name then Store.brokenToken? t.creation else none with
    | some token => .error (.brokenName t.creation token)
    | none =>
      if greatestColumns ≤ seen.length then .error (.tooManyColumns t.name)
      else if seen.contains (Store.upper name) then .error (.duplicateColumn name)
      else checkNames t (Store.upper name :: seen) rest

def isReserved (table : String) : Bool :=
  Text.startsWith (Store.upper table) "SQLITE_".toList

def checkTable (t : StoredTable) : Except LoadError Unit :=
  if isReserved t.name then .error (.reservedName t.name)
  else if t.columns.isEmpty then .error (.noColumns t.name)
  else checkNames t [] t.columnNames

def decodeRecords : Nat → List RawRecord → Except EncodingError (List (List String))
  | _, [] => .ok []
  | index, r :: rest => do
    let record ← decodeRecord index r
    let records ← decodeRecords (index + 1) rest
    .ok (record :: records)

def headerOf (records : List RawRecord) : Except EncodingError (List String) :=
  match records with
  | [] => .ok []
  | r :: _ => decodeRecord 0 r

def ofBytes (path : String) (bytes : List UInt8) : Except LoadError StoredTable := do
  let raw := rawRecords bytes
  let headers ← (headerOf raw).mapError (.badHeader path)
  let records ← (decodeRecords 1 (raw.drop 1)).mapError (.badRecord path)
  let t := tableOf (tableName path) headers records
  checkTable t
  pure t

def readBytes (files : Files) (path : String) : Except LoadError (List UInt8) :=
  match files.find path with
  | .error cause => .error (.unopened path cause)
  | .ok .folder => .error (.unreadableHeader path .isFolder)
  | .ok (.file (.bytes raw)) => .ok raw
  | .ok (.file (.database _)) => .error (.notText path)

def load (files : Files) (path : String) : Except LoadError StoredTable := do
  ofBytes path (← readBytes files path)

end TableQuery.Csv
