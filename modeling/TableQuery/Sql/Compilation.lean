import TableQuery.Sql.Statement

namespace TableQuery

open Sql

namespace Query

/-- A field, truncated when the query groups it by a period. -/
def fieldExpr (q : Query) (field : String) : Expr :=
  match q.bucketOf field with
  | some b => .truncated b (.ofField field)
  | none => .ofField field

def aggregateExpr (a : AggregateField) : Expr := .aggregate a (.ofField a.field)

def bucketItem (b : String × Bucket) : SelectItem :=
  ⟨.truncated b.2 (.ofField b.1), some (outputName b.1)⟩

def selectItem (q : Query) : SelectField → Option SelectItem
  | .column field =>
    let label :=
      if (q.bucketOf field).isSome || isQualified field then some (outputName field) else none
    some ⟨q.fieldExpr field, label⟩
  | .aggregate a => some ⟨aggregateExpr a, some a.label⟩
  | .window _ => none

def selectItems (q : Query) : List SelectItem :=
  q.implicitBuckets.map bucketItem ++ q.baseSelect.filterMap q.selectItem

def produces (name field : String) : Bool := field = name || outputName field = name

def fieldNamed (q : Query) (name : String) : Option String :=
  let selected := q.baseSelect.findSome? fun
    | .column field => if produces name field then some field else none
    | _ => none
  selected.or ((q.implicitBuckets.map Prod.fst).find? (produces name))

/-- The expression behind an output column. It stands in HAVING and ORDER BY, where a label inside
an expression is not always allowed. -/
def outputExpr (q : Query) (name : String) : Expr :=
  match q.aggregateLabelled name with
  | some a => aggregateExpr a
  | none =>
    match q.fieldNamed name with
    | some field => q.fieldExpr field
    | none => .ofField name

def groupExpr (g : GroupField) : Expr :=
  match g.bucket with
  | some b => .truncated b (.ofField g.field)
  | none => .ofField g.field

def keyRef (table key : String) : ColumnRef :=
  match FieldRef.ofField key with
  | ⟨some qualifier, column⟩ => .qualified qualifier column
  | ⟨none, column⟩ => .qualified table column

def joinClause (table : String) (j : Join) : JoinClause :=
  ⟨j.kind, j.table, keyRef table j.left, keyRef j.table j.right⟩

def body (q : Query) (table : String) : Select where
  items := q.selectItems
  table := table
  joins := q.join.map (joinClause table)
  filter := q.filter.map fun f => ⟨.ofField f.field, f⟩
  groupBy := q.groupBy.map groupExpr
  having := q.having.map fun f => ⟨q.outputExpr f.field, f⟩

def baseColumn (field : String) : ColumnRef := .ofBaseRows (outputName field)

def windowCall (w : WindowField) : WindowCall where
  function := w.function
  value := (w.field.map fun field => Expr.column (baseColumn field)).getD .null
  distance := w.distance
  fallback := w.fallback
  partitionBy := w.partitionBy.map baseColumn
  orderBy := w.orderBy.map fun t => (baseColumn t.field, t.direction)

/-- A window's label is no column of the base rows, so its call is repeated. -/
def windowedTarget (q : Query) (field : String) : SortTarget :=
  match q.windows.find? fun w => w.label = field with
  | some w => .window (windowCall w)
  | none => .expr (.column (baseColumn field))

def ending (q : Query) (target : String → SortTarget) (capped : Bool) : Ending :=
  ⟨q.orderBy.map fun t => (target t.field, t.direction), if capped then some q.rowCap else none⟩

def statement (q : Query) (table : String) (capped : Bool) : Statement :=
  if q.hasWindows then
    .windowed (q.body table) (q.windows.map fun w => (windowCall w, w.label))
      (q.ending q.windowedTarget capped)
  else .plain (q.body table) (q.ending (fun field => .expr (q.outputExpr field)) capped)

def sql (q : Query) (d : Dialect) (table : String) (capped : Bool) : String :=
  (q.statement table capped).text d

def countSql (q : Query) (d : Dialect) (table : String) : String :=
  (q.statement table false).countText d

end Query
end TableQuery
