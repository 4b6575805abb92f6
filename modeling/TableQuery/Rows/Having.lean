import TableQuery.Rows.Row
import TableQuery.Sql.Expr

namespace TableQuery.Filter

def order? (numeric : Bool) (cell operand : Json) : Option Ordering :=
  if cell.isNull || operand.isNull then none
  else if numeric then
    match Cell.number? cell, Cell.number? operand with
    | some x, some y => some (Cell.compareFloats x y)
    | _, _ => none
  else
    match Cell.text? cell, Cell.text? operand with
    | some a, some b => some (Cell.compareText a b)
    | _, _ => none

/-- The cell of the filter's output column, or else of the field itself. -/
def cell (f : Filter) (r : Row) : Option Json :=
  (r.get? (outputName f.field)).or (r.get? f.field)

def holdsOf (test : Ordering → Bool) (ordering : Option Ordering) : Bool :=
  (ordering.map test).getD false

/-- A comparison; `ifAbsent` is its answer without an operand. -/
def compares (f : Filter) (test : Ordering → Bool) (ifAbsent : Bool) (cell : Option Json) : Bool :=
  match f.value with
  | none => ifAbsent
  | some .null => ifAbsent
  | some operand => holdsOf test (cell.bind fun j => order? f.isNumeric j operand)

def isMember (f : Filter) (cell : Json) (items : List Json) : Bool :=
  items.any fun item =>
    if f.isNumeric then holdsOf (· = .eq) (order? true cell item) else Cell.equal cell item

/-- Whether the cell is among the operand's items, or `wanted` is false and it is not. -/
def listed (f : Filter) (wanted : Bool) (cell : Option Json) : Bool :=
  let items := Sql.Condition.operandItems f.value
  if items.isEmpty then !wanted
  else
    match cell with
    | none => false
    | some j => !j.isNull && isMember f j items = wanted

def between (f : Filter) (cell : Option Json) : Bool :=
  match f.value with
  | some (.arr [low, high]) =>
    holdsOf (· != .lt) (cell.bind fun j => order? f.isNumeric j low) &&
      holdsOf (· != .gt) (cell.bind fun j => order? f.isNumeric j high)
  | _ => true

def holds (f : Filter) (r : Row) : Bool :=
  let cell := f.cell r
  match f.op with
  | .isNull => Cell.isMissing cell
  | .isNotNull => !Cell.isMissing cell
  | .eq => f.compares (· = .eq) (Cell.isMissing cell) cell
  | .notEq => f.compares (· ≠ .eq) (!Cell.isMissing cell) cell
  | .gt => f.compares (· = .gt) false cell
  | .gte => f.compares (· ≠ .lt) false cell
  | .lt => f.compares (· = .lt) false cell
  | .lte => f.compares (· ≠ .gt) false cell
  | .isIn => f.listed true cell
  | .notIn => f.listed false cell
  | .between => f.between cell

def keep (having : List Filter) (rows : List Row) : List Row :=
  rows.filter fun r => having.all fun f => f.holds r

end TableQuery.Filter
