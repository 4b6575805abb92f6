import TableQuery.Query.Names
import TableQuery.Rows.Cell
import TableQuery.Sorting.Long

namespace TableQuery

structure Row where
  cells : List (String × Json)
deriving Inhabited

namespace Row

def get? (r : Row) (column : String) : Option Json :=
  (r.cells.find? fun c => c.1 = column).map (·.2)

def put (r : Row) (column : String) (j : Json) : Row := ⟨Json.putField column j r.cells⟩

def ofPairs (pairs : List (String × Json)) : Row :=
  pairs.foldl (fun r p => r.put p.1 p.2) ⟨[]⟩

def toJson (r : Row) : Json := .obj r.cells

def ofJson? : Json → Option Row
  | .obj fields => some ⟨fields⟩
  | _ => none

/-- The given columns in their order, canonically written; absent ones are null. A column asked for
twice is taken the first time, and the second time there is nothing left of it. -/
def project (r : Row) (columns : List String) : Row :=
  ⟨columns.eraseDups.map fun c =>
    (c, if columns.count c = 1 then Cell.canonical ((r.get? c).getD .null) else .null)⟩

def compareOn (a b : Row) : List OrderTerm → Ordering
  | [] => .eq
  | t :: rest =>
    let column := outputName t.field
    (Cell.compareDirected (a.get? column) (b.get? column) t.direction).then (compareOn a b rest)

end Row

/-- The bytes of a row in memory, apart from its cells. -/
def rowSize : Nat := 72

/-- Stable; none where the rows are found to have no order. -/
def sortRows? (orderBy : List OrderTerm) (rows : List Row) : Option (List Row) :=
  if orderBy.isEmpty then some rows
  else Sorting.sort? (fun a b => Row.compareOn a b orderBy) rowSize rows

end TableQuery
