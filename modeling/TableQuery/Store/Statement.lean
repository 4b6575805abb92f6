import TableQuery.Failure
import TableQuery.Rows.Row
import TableQuery.Store.Database
import TableQuery.Text.Split

namespace TableQuery.Store

structure ReadItem where
  qualifier : Option String
  column : String
  label : Option String
deriving DecidableEq, Repr

/-- Without items every column is read. -/
structure Read where
  items : Option (List ReadItem)
  table : String
  limit : Option Nat
deriving DecidableEq, Repr

namespace Read

def takeQuoted : List Char → Option (List Char × List Char)
  | [] => none
  | c :: rest =>
    if c ≠ quote then (takeQuoted rest).map fun (name, after) => (c :: name, after)
    else
      match rest with
      | [] => some ([], [])
      | d :: after =>
        if d = quote then (takeQuoted after).map fun (name, more) => (quote :: name, more)
        else some ([], d :: after)

def takeName : List Char → Option (String × List Char)
  | [] => none
  | c :: rest =>
    if c = quote then (takeQuoted rest).map fun (name, after) => (String.ofList name, after)
    else none

def takeMark (mark : String) (cs : List Char) : Option (List Char) :=
  Text.dropStart? cs mark.toList

def takeLabel (cs : List Char) : Option (Option String × List Char) :=
  match takeMark " AS " cs with
  | some rest => (takeName rest).map fun (label, after) => (some label, after)
  | none => some (none, cs)

def takeItem (cs : List Char) : Option (ReadItem × List Char) := do
  let (first, rest) ← takeName cs
  match takeMark "." rest with
  | some rest => do
    let (column, rest) ← takeName rest
    let (label, rest) ← takeLabel rest
    some (⟨some first, column, label⟩, rest)
  | none => do
    let (label, rest) ← takeLabel rest
    some (⟨none, first, label⟩, rest)

def takeItems : Nat → List Char → Option (List ReadItem × List Char)
  | 0, _ => none
  | fuel + 1, cs => do
    let (item, rest) ← takeItem cs
    match takeMark ", " rest with
    | some rest => (takeItems fuel rest).map fun (items, after) => (item :: items, after)
    | none => some ([item], rest)

def takeLimit (cs : List Char) : Option (Option Nat) :=
  if cs.isEmpty then some none
  else (takeMark " LIMIT " cs).bind fun digits => (String.ofList digits).toNat?.map some

def takeTable (items : Option (List ReadItem)) (cs : List Char) : Option Read := do
  let (table, rest) ← takeName (← takeMark " FROM " cs)
  let limit ← takeLimit rest
  some ⟨items, table, limit⟩

def ofText? (sql : String) : Option Read := do
  let cs ← takeMark "SELECT " sql.toList
  match takeMark "*" cs with
  | some rest => takeTable none rest
  | none => do
    let (items, rest) ← takeItems cs.length cs
    takeTable (some items) rest

def wholeTable (table : String) : String := "SELECT * FROM " ++ quoted table

end Read

structure Fetched where
  columns : List String
  rows : List Row

/-- Where a cell of a result comes from: a column of the table, or a text that names none. -/
inductive Origin
  | column (index : Nat)
  | literal (s : String)

namespace StoredTable

def columnIndex? (t : StoredTable) (name : String) : Option Nat :=
  t.columns.findIdx? fun c => sameName c.name name

def cellOf (row : List Value) : Origin → Json
  | .column index => (row[index]?.map Value.cell).getD .null
  | .literal s => .str s

def noColumn (name : String) : Failure := ⟨.engine, "no such column: " ++ name⟩

/-- A quoted name that is no column counts as a text. -/
def resolve (t : StoredTable) (item : ReadItem) : Except Failure (String × Origin) :=
  match item.qualifier, t.columnIndex? item.column with
  | none, some index =>
    .ok (item.label.getD (t.columnNames[index]?.getD item.column), .column index)
  | none, none => .ok (item.label.getD (quoted item.column), .literal item.column)
  | some qualifier, some index =>
    if sameName qualifier t.name then
      .ok (item.label.getD (t.columnNames[index]?.getD item.column), .column index)
    else .error (noColumn (qualifier ++ "." ++ item.column))
  | some qualifier, none => .error (noColumn (qualifier ++ "." ++ item.column))

def allOrigins (t : StoredTable) : List (String × Origin) :=
  t.columnNames.zipIdx.map fun (name, index) => (name, .column index)

def fetch (t : StoredTable) (r : Read) : Except Failure Fetched := do
  let origins ←
    match r.items with
    | none => pure t.allOrigins
    | some items => items.mapM t.resolve
  let rows := match r.limit with
    | some n => t.rows.take n
    | none => t.rows
  pure ⟨origins.map Prod.fst,
    rows.map fun row => Row.ofPairs (origins.map fun (name, origin) => (name, cellOf row origin))⟩

end StoredTable

namespace Database

def fetch (d : Database) (r : Read) : Except Failure Fetched :=
  match d.table? r.table with
  | some t => t.fetch r
  | none => .error ⟨.engine, "no such table: " ++ r.table⟩

def unreadable (sql : String) : Failure :=
  ⟨.engine, "only whole tables can be read: " ++ sql⟩

def run (d : Database) (sql : String) : Except Failure Fetched :=
  match brokenToken? sql with
  | some token => .error ⟨.engine, token.report sql⟩
  | none =>
    match Read.ofText? sql with
    | some r => d.fetch r
    | none => .error (unreadable sql)

def answer (d : Database) (sql : String) : Except Failure (List Row) := (d.run sql).map Fetched.rows

end Database
end TableQuery.Store
