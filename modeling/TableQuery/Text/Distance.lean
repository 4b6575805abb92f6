import TableQuery.Text.Lowercase

namespace TableQuery.Text

/-- The rest of a row of the distance table, `left` being the entry before it. -/
def distanceCells (a : Char) (left : Nat) : List Char → List Nat → List Nat
  | c :: cs, diagonal :: up :: row =>
    let cell := min (diagonal + if a = c then 0 else 1) (min (up + 1) (left + 1))
    cell :: distanceCells a cell cs (up :: row)
  | _, _ => []

def distanceRow (b : List Char) (row : List Nat) (a : Char) : List Nat :=
  let first := row.headD 0 + 1
  first :: distanceCells a first b row

/-- Insertions, deletions and substitutions that turn one text into the other. -/
def distance (a b : List Char) : Nat :=
  (a.foldl (distanceRow b) (List.range (b.length + 1))).getLastD 0

/-- Names equal but for case come before all others. -/
def misspelling (name candidate : String) : Nat :=
  let a := lowercase name
  let b := lowercase candidate
  if b = a then 0 else distance a.toList b.toList + 1

def firstLeast {α : Type} (key : α → Nat) : List α → Option α
  | [] => none
  | x :: rest =>
    match firstLeast key rest with
    | none => some x
    | some y => if key y < key x then some y else some x

def nearest (name : String) (candidates : List String) : Option String :=
  firstLeast (misspelling name) candidates

end TableQuery.Text
