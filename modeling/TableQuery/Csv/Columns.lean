import TableQuery.Decimal.Reading
import TableQuery.Store.DeclaredType
import TableQuery.Text.Blank

namespace TableQuery.Csv

inductive ColumnType
  | integer
  | real
  | text
deriving DecidableEq, Repr

namespace ColumnType

def declared : ColumnType → Store.DeclaredType
  | .integer => .integer
  | .real => .real
  | .text => .text

def integer? (cell : List Char) : Option Int := (Decimal.IntegerRange.int64.read cell).toOption

def isBlankCell (cell : String) : Bool := (Text.trimChars cell.toList).isEmpty

def ofCells (cells : List String) : ColumnType :=
  let filled := (cells.map fun c => Text.trimChars c.toList).filter fun c => !c.isEmpty
  if filled.all fun c => (integer? c).isSome then .integer
  else if filled.all fun c => (Decimal.readFloat c).isSome then .real
  else .text

end ColumnType

def baseName (index : Nat) (header : String) : String :=
  let name := Text.trim header
  if name.isEmpty then "column_" ++ Nat.repr (index + 1) else name

def numbered (base : String) (n : Nat) : String := base ++ "_" ++ Nat.repr n

/-- The base with the least number from `n` on that makes it new. As many numbers as there are
names, and one more, hold a new one. -/
def freshNumbered (taken : List String) (base : String) : Nat → Nat → String
  | 0, n => numbered base n
  | fuel + 1, n =>
    if taken.contains (numbered base n) then freshNumbered taken base fuel (n + 1)
    else numbered base n

def freshName (taken : List String) (base : String) : String :=
  if taken.contains base then freshNumbered taken base taken.length 2 else base

def columnNamesFrom : Nat → List String → List String → List String
  | _, _, [] => []
  | index, taken, header :: rest =>
    let name := freshName taken (baseName index header)
    name :: columnNamesFrom (index + 1) (taken ++ [name]) rest

def columnNames (headers : List String) : List String := columnNamesFrom 0 [] headers

end TableQuery.Csv
