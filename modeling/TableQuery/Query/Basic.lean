import TableQuery.Calendar.Bucket
import TableQuery.Json.Basic

namespace TableQuery

export Calendar (Bucket)

inductive AggregateFunction
  | count
  | countDistinct
  | sum
  | avg
  | min
  | max
  | median
  | p25
  | p75
  | percentile
  | stddev
deriving DecidableEq, Repr

/-- A reduction of a column, or of whole rows when the field is `*`. -/
structure AggregateField where
  field : String
  function : AggregateFunction
  label : String
  percentile : Option FiniteFloat

inductive WindowFunction
  | lag
  | lead
  | rank
  | denseRank
  | rowNumber
  | runningSum
  | runningAvg
  | pctOfTotal
deriving DecidableEq, Repr

inductive Direction
  | asc
  | desc
deriving DecidableEq, Repr

structure OrderTerm where
  field : String
  direction : Direction
deriving DecidableEq, Repr

/-- A value computed over the rows that share the partition columns. -/
structure WindowField where
  function : WindowFunction
  field : Option String
  label : String
  partitionBy : List String
  orderBy : List OrderTerm
  offset : Option Nat
  fallback : Option Json

inductive SelectField
  | column (field : String)
  | window (w : WindowField)
  | aggregate (a : AggregateField)

inductive GroupField
  | plain (field : String)
  | bucketed (field : String) (bucket : Bucket)
deriving DecidableEq, Repr

inductive FilterOp
  | eq
  | notEq
  | gt
  | gte
  | lt
  | lte
  | isIn
  | notIn
  | between
  | isNull
  | isNotNull
deriving DecidableEq, Repr

structure Filter where
  field : String
  op : FilterOp
  value : Option Json

inductive JoinKind
  | inner
  | left
deriving DecidableEq, Repr

/-- `left` is a key of the base table and `right` of the joined one, unless qualified. -/
structure Join where
  table : String
  left : String
  right : String
  kind : JoinKind
deriving DecidableEq, Repr

structure Query where
  join : List Join
  select : List SelectField
  groupBy : List GroupField
  filter : List Filter
  having : List Filter
  orderBy : List OrderTerm
  limit : Option Nat

def maxRows : Nat := 10000

namespace AggregateFunction

def name : AggregateFunction → String
  | .count => "count"
  | .countDistinct => "count_distinct"
  | .sum => "sum"
  | .avg => "avg"
  | .min => "min"
  | .max => "max"
  | .median => "median"
  | .p25 => "p25"
  | .p75 => "p75"
  | .percentile => "percentile"
  | .stddev => "stddev"

def all : List AggregateFunction :=
  [.count, .countDistinct, .sum, .avg, .min, .max, .median, .p25, .p75, .percentile, .stddev]

def isCounting : AggregateFunction → Bool
  | .count | .countDistinct => true
  | _ => false

def isPercentile : AggregateFunction → Bool
  | .median | .p25 | .p75 | .percentile => true
  | _ => false

end AggregateFunction

namespace AggregateField

/-- The fraction of an order statistic. A percentile above 1 is a percentage. -/
def fraction (a : AggregateField) : Option Float :=
  match a.function with
  | .median => some 0.5
  | .p25 => some 0.25
  | .p75 => some 0.75
  | .percentile =>
    a.percentile.bind fun p =>
      if 0 ≤ p.val && p.val ≤ 1 then some p.val
      else if 1 < p.val && p.val ≤ 100 then some (p.val / 100)
      else none
  | _ => none

def countsRows (a : AggregateField) : Bool := a.field = "*"

end AggregateField

namespace WindowFunction

def name : WindowFunction → String
  | .lag => "lag"
  | .lead => "lead"
  | .rank => "rank"
  | .denseRank => "dense_rank"
  | .rowNumber => "row_number"
  | .runningSum => "running_sum"
  | .runningAvg => "running_avg"
  | .pctOfTotal => "pct_of_total"

def all : List WindowFunction :=
  [.lag, .lead, .rank, .denseRank, .rowNumber, .runningSum, .runningAvg, .pctOfTotal]

def requiresField : WindowFunction → Bool
  | .rank | .denseRank | .rowNumber => false
  | _ => true

end WindowFunction

def WindowField.distance (w : WindowField) : Nat := w.offset.getD 1

namespace FilterOp

def name : FilterOp → String
  | .eq => "="
  | .notEq => "!="
  | .gt => ">"
  | .gte => ">="
  | .lt => "<"
  | .lte => "<="
  | .isIn => "in"
  | .notIn => "not_in"
  | .between => "between"
  | .isNull => "is_null"
  | .isNotNull => "is_not_null"

def all : List FilterOp :=
  [.eq, .notEq, .gt, .gte, .lt, .lte, .isIn, .notIn, .between, .isNull, .isNotNull]

end FilterOp

def Filter.isNumeric (f : Filter) : Bool :=
  match f.value with
  | some (.arr items) => !items.isEmpty && items.all Json.isNumber
  | some j => j.isNumber
  | none => false

namespace JoinKind

def name : JoinKind → String
  | .inner => "inner"
  | .left => "left"

def all : List JoinKind := [.inner, .left]

end JoinKind

namespace Direction

def name : Direction → String
  | .asc => "asc"
  | .desc => "desc"

def all : List Direction := [.asc, .desc]

end Direction

namespace GroupField

def field : GroupField → String
  | .plain field => field
  | .bucketed field _ => field

def bucket : GroupField → Option Bucket
  | .plain _ => none
  | .bucketed _ bucket => some bucket

end GroupField

end TableQuery
