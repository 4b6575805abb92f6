import TableQuery.Rows.Arithmetic
import TableQuery.Rows.Row

namespace TableQuery.Aggregate

def values (column : String) (rows : List Row) : List Json :=
  (rows.filterMap fun r => r.get? column).filter fun j => !j.isNull

def numbers (cells : List Json) : List Float := cells.filterMap Cell.number?

/-- Numeric order, with negative zero before positive zero. -/
def totalLe (x y : Float) : Bool :=
  x < y || (x == y && (Decimal.isNegative x || !Decimal.isNegative y))

def sorted (xs : List Float) : List Float := xs.mergeSort totalLe

def numberOrNull (x : Option Float) : Json := (x.map Cell.ofNumber).getD .null

def total (xs : List Float) : Option Float := if xs.isEmpty then none else some (Arithmetic.sum xs)

def stddev (xs : List Float) : Option Float := (Arithmetic.variance xs).map Float.sqrt

def compareTexts (a b : Json) : Ordering :=
  Cell.compareStrings ((Cell.text? a).getD "") ((Cell.text? b).getD "")

/-- Numeric if every cell reads as a number, by text otherwise. -/
def extremeOrder (cells : List Json) : Json → Json → Ordering :=
  if cells.all fun j => (Cell.number? j).isSome then fun a b => Cell.compare (some a) (some b)
  else compareTexts

def first (order : Json → Json → Ordering) : List Json → Json
  | [] => .null
  | j :: rest => rest.foldl (fun best k => if order k best = .lt then k else best) j

def least (cells : List Json) : Json := first (extremeOrder cells) cells

def greatest (cells : List Json) : Json := first (fun a b => extremeOrder cells b a) cells

def distinctCount (cells : List Json) : Nat := (cells.filterMap Cell.text?).eraseDups.length

def ofCells (a : AggregateField) (cells : List Json) : Json :=
  let ns := numbers cells
  match a.function with
  | .count => .ofNat cells.length
  | .countDistinct => .ofNat (distinctCount cells)
  | .sum => numberOrNull (total ns)
  | .avg => numberOrNull (Arithmetic.mean ns)
  | .min => least cells
  | .max => greatest cells
  | .stddev => numberOrNull (stddev ns)
  | .median | .p25 | .p75 | .percentile =>
    numberOrNull (a.fraction.bind (Arithmetic.percentile (sorted ns)))

def compute (a : AggregateField) (rows : List Row) : Json :=
  if a.countsRows then
    if a.function.isCounting then .ofNat rows.length else .null
  else ofCells a (values (outputName a.field) rows)

end TableQuery.Aggregate
