import TableQuery.Failure
import TableQuery.Query.Basic
import TableQuery.Schema.Basic

namespace TableQuery

inductive NameContext
  | field
  | groupBy
  | filter
  | orderBy
  | joinKey
  | having
  | window
  | windowPartition
  | windowOrder
deriving DecidableEq, Repr

def NameContext.text : NameContext → String
  | .field => "field"
  | .groupBy => "group by field"
  | .filter => "filter field"
  | .orderBy => "order by field"
  | .joinKey => "join key"
  | .having => "having field"
  | .window => "window field"
  | .windowPartition => "window partition field"
  | .windowOrder => "window order field"

/-- A `nearest` is the known name most like the unknown one, if any is known. -/
inductive ValidationError
  | joinsNeedSchema
  | nothingSelected
  | unknownTable (name : String) (nearest : Option String)
  | unknownJoinTable (name : String) (nearest : Option String)
  | unknownQualifier (table field : String) (context : NameContext) (nearest : Option String)
  | unknownColumn (column table : String) (context : NameContext) (nearest : Option String)
  | unknownOutput (field : String) (context : NameContext) (nearest : Option String)
  | rowsNotReducible (function : AggregateFunction) (label : String)
  | percentileOutOfRange (label : String)
  | duplicateOutput (name : String)
  | windowNeedsField (label : String) (function : WindowFunction)
  | badJoinKey (cause : ValidationError) (relationships : List ForeignKey)

namespace ValidationError

def quote (s : String) : String := "'" ++ s ++ "'"

def hint : Option String → String
  | some name => " Did you mean " ++ quote name ++ "?"
  | none => ""

def relationship (k : ForeignKey) : String :=
  k.fromTable ++ "." ++ k.fromColumn ++ " = " ++ k.toTable ++ "." ++ k.toColumn

def message : ValidationError → String
  | joinsNeedSchema => "Joins need the full source schema; use validate_with_joins"
  | nothingSelected => "Query must select at least one field"
  | unknownTable name nearest => "Unknown table " ++ quote name ++ "." ++ hint nearest
  | unknownJoinTable name nearest => "Unknown join table " ++ quote name ++ "." ++ hint nearest
  | unknownQualifier table field context nearest =>
    "Unknown table " ++ quote table ++ " in " ++ context.text ++ " " ++ quote field ++ "." ++
      hint nearest
  | unknownColumn column table context nearest =>
    "Unknown " ++ context.text ++ " " ++ quote column ++ " in table " ++ quote table ++ "." ++
      hint nearest
  | unknownOutput field context nearest =>
    "Unknown " ++ context.text ++ " " ++ quote field ++
      "; it must name a selected field or alias." ++ hint nearest
  | rowsNotReducible function label =>
    "Aggregate " ++ quote function.name ++ " cannot read '*' (alias " ++ quote label ++ ")"
  | percentileOutOfRange label =>
    "Percentile for " ++ quote label ++
      " must be a fraction in [0, 1] or a percentage in (1, 100]"
  | duplicateOutput name =>
    "Duplicate output name " ++ quote name ++ "; every alias must be unique"
  | windowNeedsField label function =>
    "Window " ++ quote label ++ " (" ++ function.name ++ ") needs a field"
  | badJoinKey cause [] => cause.message
  | badJoinKey cause keys =>
    cause.message ++ " Known relationships: " ++ ", ".intercalate (keys.map relationship)

def failure (e : ValidationError) : Failure := ⟨.validation, e.message⟩

end ValidationError
end TableQuery
