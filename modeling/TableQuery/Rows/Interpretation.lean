import TableQuery.Rows.Aggregate
import TableQuery.Rows.Group
import TableQuery.Rows.Having
import TableQuery.Rows.Row
import TableQuery.Rows.Window

namespace TableQuery

/-- The rows of a page, and how many rows there were before the page was cut off. -/
structure Page where
  rows : List Row
  columns : List String
  totalRows : Nat
  truncated : Bool

namespace Query

def sourceField : SelectField → Option String
  | .column field => some field
  | .aggregate a => some a.field
  | .window _ => none

/-- The raw columns that the later stages read. -/
def rawFields (q : Query) : List String :=
  let read := (q.baseSelect.filterMap sourceField ++ q.groupBy.map GroupField.field).filter (· ≠ "*")
  if read.isEmpty then ["*"] else read.eraseDups

def rawQuery (q : Query) : Query where
  join := q.join
  select := q.rawFields.map .column
  groupBy := []
  filter := q.filter
  having := []
  orderBy := []
  limit := none

/-- A selected column of a group: a key, or the cell of its first member. -/
def groupCell (q : Query) (g : Group) (field : String) : Json :=
  match g.keyOf q.groupBy field with
  | some key => key
  | none => ((g.members.head?.bind fun r => r.get? (outputName field))).getD .null

def groupCells (q : Query) (g : Group) : List (String × Json) :=
  q.implicitBuckets.map (fun b => (outputName b.1, (g.keyOf q.groupBy b.1).getD .null)) ++
    q.baseSelect.filterMap fun
      | .column field => some (outputName field, q.groupCell g field)
      | .aggregate a => some (a.label, Aggregate.compute a g.members)
      | .window _ => none

def groupRow (q : Query) (g : Group) : Row := .ofPairs (q.groupCells g)

/-- One row for each group; none when a period starts before the calendar. -/
def aggregate? (q : Query) (raw : List Row) : Option (List Row) :=
  (Group.ofRows? q.groupBy raw).map fun groups => groups.map q.groupRow

def groups (q : Query) : Bool := q.hasAggregates || !q.groupBy.isEmpty

def baseRows? (q : Query) (raw : List Row) : Option (List Row) :=
  if q.groups then (q.aggregate? raw).map (Filter.keep q.having) else some raw

/-- The rows before order and limit. -/
def interpret? (q : Query) (raw : List Row) : Option (List Row) :=
  (q.baseRows? raw).bind (WindowField.addAll? q.windows)

def page (q : Query) (rows : List Row) (total : Nat) : Page where
  rows := (rows.take q.rowCap).map fun r => r.project q.outputColumns
  columns := q.outputColumns
  totalRows := total
  truncated := q.rowCap < total

def finalize? (q : Query) (rows : List Row) : Option Page :=
  (sortRows? q.orderBy rows).map fun sorted => q.page sorted rows.length

end Query
end TableQuery
