import TableQuery.Validation.Scope

namespace TableQuery

namespace Scope

/-- An unqualified key belongs to the table of its side. -/
def checkKey (s : Scope) (joined side : Table) (key : String) : Except ValidationError Unit :=
  if isQualified key then (s.join joined).check key .joinKey else side.check key .joinKey

def addJoin (schema : Schema) (s : Scope) (j : Join) : Except ValidationError Scope :=
  match schema.table? j.table with
  | none => .error (.unknownJoinTable j.table (Text.nearest j.table schema.tableNames))
  | some joined =>
    let keys := schema.keysBetween s.base.name joined.name
    match s.checkKey joined s.base j.left, s.checkKey joined joined j.right with
    | .error e, _ => .error (.badJoinKey e keys)
    | .ok _, .error e => .error (.badJoinKey e keys)
    | .ok _, .ok _ => .ok (s.join joined)

def ofJoins (schema : Schema) (base : Table) (joins : List Join) : Except ValidationError Scope :=
  joins.foldlM (addJoin schema) ⟨base, []⟩

def checkAggregate (s : Scope) (a : AggregateField) : Except ValidationError Unit := do
  if a.countsRows then
    if a.function ≠ .count then .error (.rowsNotReducible a.function a.label)
  else s.check a.field .field
  if a.function = .percentile && a.fraction.isNone then .error (.percentileOutOfRange a.label)

def checkSelect (s : Scope) : SelectField → Except ValidationError Unit
  | .column field => s.check field .field
  | .aggregate a => s.checkAggregate a
  | .window _ => .ok ()

end Scope

def firstRepeated (seen : List String) : List String → Option String
  | [] => none
  | name :: rest => if seen.contains name then some name else firstRepeated (name :: seen) rest

def checkOutput (outputs : List String) (context : NameContext) (field : String) :
    Except ValidationError Unit :=
  if outputs.contains (outputName field) then .ok ()
  else .error (.unknownOutput field context (Text.nearest field outputs))

def WindowField.check (columns : List String) (w : WindowField) : Except ValidationError Unit := do
  match w.field with
  | some field => checkOutput columns .window field
  | none => if w.function.requiresField then .error (.windowNeedsField w.label w.function)
  w.partitionBy.forM (checkOutput columns .windowPartition)
  w.orderBy.forM fun t => checkOutput columns .windowOrder t.field

namespace Query

/-- Aggregated and windowed results carry their output columns only. -/
def ordersOutputs (q : Query) : Bool := q.hasAggregates || !q.groupBy.isEmpty || q.hasWindows

def checkOrder (q : Query) (s : Scope) (t : OrderTerm) : Except ValidationError Unit :=
  if q.ordersOutputs then checkOutput q.outputColumns .orderBy t.field
  else s.check t.field .orderBy

def checkIn (q : Query) (s : Scope) : Except ValidationError Unit := do
  if q.select.isEmpty then .error .nothingSelected
  q.select.forM s.checkSelect
  q.groupBy.forM fun g => s.check g.field .groupBy
  q.filter.forM fun f => s.check f.field .filter
  if let some name := firstRepeated [] q.outputColumns then .error (.duplicateOutput name)
  q.having.forM fun f => checkOutput q.baseColumns .having f.field
  q.windows.forM (WindowField.check q.baseColumns)
  q.orderBy.forM (q.checkOrder s)

def checkTable (q : Query) (t : Table) : Except ValidationError Unit :=
  if q.join.isEmpty then q.checkIn ⟨t, []⟩ else .error .joinsNeedSchema

/-- A query against a whole schema, its joins included. -/
def checkSchema (q : Query) (schema : Schema) (base : String) : Except ValidationError Unit :=
  match schema.table? base with
  | none => .error (.unknownTable base (Text.nearest base schema.tableNames))
  | some t => do q.checkIn (← Scope.ofJoins schema t q.join)

end Query
end TableQuery
