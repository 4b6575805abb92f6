import TableQuery.Query.Basic
import TableQuery.Text.Split

namespace TableQuery

structure FieldRef where
  table : Option String
  column : String
deriving DecidableEq, Repr

/-- A field is qualified by what stands before its first point. -/
def FieldRef.ofField (field : String) : FieldRef :=
  match Text.cutAt '.' field.toList with
  | some (table, column) => ⟨some (String.ofList table), String.ofList column⟩
  | none => ⟨none, field⟩

def isQualified (field : String) : Bool := (FieldRef.ofField field).table.isSome

/-- The output column of a field: `orders.amount` becomes `orders_amount`, so that joined tables
may share a column name. -/
def outputName (field : String) : String :=
  match FieldRef.ofField field with
  | ⟨some table, column⟩ => table ++ "_" ++ column
  | ⟨none, column⟩ => column

namespace SelectField

def outputName : SelectField → String
  | .column field => TableQuery.outputName field
  | .window w => w.label
  | .aggregate a => a.label

def aggregate? : SelectField → Option AggregateField
  | .aggregate a => some a
  | _ => none

def window? : SelectField → Option WindowField
  | .window w => some w
  | _ => none

def isWindow : SelectField → Bool
  | .window _ => true
  | _ => false

def selects (field : String) : SelectField → Bool
  | .column other => other = field
  | _ => false

end SelectField

namespace WindowField

def sourceColumn (w : WindowField) : Option String := w.field.map outputName

def partitionColumns (w : WindowField) : List String := w.partitionBy.map outputName

end WindowField

namespace Query

def aggregates (q : Query) : List AggregateField := q.select.filterMap SelectField.aggregate?

def windows (q : Query) : List WindowField := q.select.filterMap SelectField.window?

def hasAggregates (q : Query) : Bool := !q.aggregates.isEmpty

def hasWindows (q : Query) : Bool := !q.windows.isEmpty

def baseSelect (q : Query) : List SelectField := q.select.filter fun f => !f.isWindow

def bucketOf (q : Query) (field : String) : Option Bucket :=
  (q.groupBy.find? fun g => g.field = field).bind GroupField.bucket

def bucketedFields (q : Query) : List (String × Bucket) :=
  q.groupBy.filterMap fun
    | .bucketed field bucket => some (field, bucket)
    | .plain _ => none

/-- Bucketed group fields that the select list does not name; they are added to the output. -/
def implicitBuckets (q : Query) : List (String × Bucket) :=
  q.bucketedFields.filter fun b => !q.select.any (SelectField.selects b.1)

def baseColumns (q : Query) : List String :=
  q.implicitBuckets.map (fun b => outputName b.1) ++ q.baseSelect.map SelectField.outputName

def outputColumns (q : Query) : List String :=
  q.baseColumns ++ q.windows.map WindowField.label

def aggregateLabelled (q : Query) (label : String) : Option AggregateField :=
  q.aggregates.find? fun a => a.label = label

def rowCap (q : Query) : Nat := min (q.limit.getD maxRows) maxRows

end Query
end TableQuery
