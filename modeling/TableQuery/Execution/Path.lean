import TableQuery.Query.Names
import TableQuery.Sql.Dialect

namespace TableQuery

inductive Capability
  | native
  | requiresFallback (labels : List String)
deriving DecidableEq, Repr

inductive ExecutionPath
  | sqlOnly
  | sqlWithWindows
  | fallbackOnly
  | fallbackWithWindows
deriving DecidableEq, Repr

namespace Capability

def isFallback : Capability → Bool
  | .native => false
  | .requiresFallback _ => true

end Capability

namespace ExecutionPath

def name : ExecutionPath → String
  | .sqlOnly => "sql_only"
  | .sqlWithWindows => "sql_with_window_cte"
  | .fallbackOnly => "fallback_only"
  | .fallbackWithWindows => "fallback_with_windows"

def isFallback : ExecutionPath → Bool
  | .fallbackOnly | .fallbackWithWindows => true
  | _ => false

end ExecutionPath

/-- A percentile without a fraction has no form in any dialect. -/
def Dialect.lacks (d : Dialect) (a : AggregateField) : Bool :=
  !d.supportsAggregate a.function || (a.function.isPercentile && a.fraction.isNone)

namespace Query

def lackingLabels (q : Query) (d : Dialect) : List String :=
  (q.aggregates.filter d.lacks).map AggregateField.label

def capability (q : Query) (d : Dialect) : Capability :=
  match q.lackingLabels d with
  | [] => .native
  | labels => .requiresFallback labels

def path (q : Query) (d : Dialect) : ExecutionPath :=
  match (q.capability d).isFallback, q.hasWindows with
  | false, false => .sqlOnly
  | false, true => .sqlWithWindows
  | true, false => .fallbackOnly
  | true, true => .fallbackWithWindows

end Query
end TableQuery
