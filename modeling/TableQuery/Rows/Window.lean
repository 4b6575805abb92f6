import TableQuery.Rows.Arithmetic
import TableQuery.Rows.Group

namespace TableQuery.WindowField

abbrev Placed := Row × Nat

def partitionKey (w : WindowField) (r : Row) : String :=
  Cell.groupKey (w.partitionColumns.map r.get?)

def partitions (w : WindowField) (rows : List Row) : List (List Placed) :=
  (gather (rows.zipIdx.map fun p => (w.partitionKey p.1, p))).map Prod.snd

def placeSize : Nat := 8

def sort? (w : WindowField) (partition : List Placed) : Option (List Placed) :=
  Sorting.sort? (fun a b => Row.compareOn a.1 b.1 w.orderBy) placeSize partition

def sourceCell (w : WindowField) (r : Row) : Option Json := w.sourceColumn.bind r.get?

/-- Ranks of a partition's rows; rows that compare equal share one. -/
def ranksFrom (orderBy : List OrderTerm) (dense : Bool) (place rank : Nat) (previous : Row) :
    List Row → List Nat
  | [] => []
  | r :: rest =>
    let rank' :=
      if Row.compareOn previous r orderBy = .eq then rank else if dense then rank + 1 else place + 1
    rank' :: ranksFrom orderBy dense (place + 1) rank' r rest

def ranks (orderBy : List OrderTerm) (dense : Bool) : List Row → List Nat
  | [] => []
  | r :: rest => 1 :: ranksFrom orderBy dense 1 1 r rest

/-- Places are 64-bit words: none when the sum does not fit. -/
def laterPlace? (place distance : Nat) : Option Nat :=
  if place + distance < UInt64.size then some (place + distance) else none

def earlierPlace? (place distance : Nat) : Option Nat :=
  if distance ≤ place then some (place - distance) else none

def cellAt (w : WindowField) (cells : Array (Option Json)) (place : Option Nat) : Json :=
  match place.bind fun p => cells[p]? with
  | some cell => cell.getD .null
  | none => w.fallback.getD .null

def lagCells (w : WindowField) (rows : List Row) : List Json :=
  let cells := (rows.map w.sourceCell).toArray
  (List.range rows.length).map fun place => w.cellAt cells (earlierPlace? place w.distance)

def leadCells? (w : WindowField) (rows : List Row) : Option (List Json) :=
  let cells := (rows.map w.sourceCell).toArray
  (List.range rows.length).mapM fun place =>
    (laterPlace? place w.distance).map fun later => w.cellAt cells (some later)

def sourceNumbers (w : WindowField) (rows : List Row) : List (Option Float) :=
  rows.map fun r => (w.sourceCell r).bind Cell.number?

def runningCells (f : Float → Nat → Float) (numbers : List (Option Float)) : List Json :=
  (Arithmetic.running 0 0 numbers).map fun (total, count) =>
    if count = 0 then .null else Cell.ofNumber (f total count)

/-- The window's cells for a sorted partition; none when a place behind a row is no word. -/
def partitionCells? (w : WindowField) (rows : List Row) : Option (List Json) :=
  match w.function with
  | .lag => some (w.lagCells rows)
  | .lead => w.leadCells? rows
  | .rowNumber => some ((List.range rows.length).map fun place => .ofNat (place + 1))
  | .rank => some ((ranks w.orderBy false rows).map .ofNat)
  | .denseRank => some ((ranks w.orderBy true rows).map .ofNat)
  | .runningSum => some (runningCells (fun total _ => total) (w.sourceNumbers rows))
  | .runningAvg =>
    some (runningCells (fun total count => total / Float.ofNat count) (w.sourceNumbers rows))
  | .pctOfTotal =>
    some ((Arithmetic.shares (w.sourceNumbers rows)).map fun x => (x.map Cell.ofNumber).getD .null)

def placedCells? (w : WindowField) (partition : List Placed) : Option (List (Nat × Json)) := do
  let sorted ← w.sort? partition
  let cells ← w.partitionCells? (sorted.map Prod.fst)
  some ((sorted.map Prod.snd).zip cells)

/-- The window's cells, one for each row in row order; none when the evaluation breaks off. -/
def evaluate? (w : WindowField) (rows : List Row) : Option (List Json) := do
  let placed ← (w.partitions rows).mapM w.placedCells?
  some ((placed.flatten.mergeSort fun a b => a.1 ≤ b.1).map Prod.snd)

def addTo? (w : WindowField) (rows : List Row) : Option (List Row) :=
  (w.evaluate? rows).map fun cells => (rows.zip cells).map fun (r, j) => r.put w.label j

/-- Later windows read the cells of earlier ones. -/
def addAll? (windows : List WindowField) (rows : List Row) : Option (List Row) :=
  windows.foldlM (fun rows w => w.addTo? rows) rows

end TableQuery.WindowField
