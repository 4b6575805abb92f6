import TableQuery.Sql.Expr

namespace TableQuery.Sql

structure SelectItem where
  expr : Expr
  label : Option String

structure JoinClause where
  kind : JoinKind
  table : String
  left : ColumnRef
  right : ColumnRef

structure Select where
  items : List SelectItem
  table : String
  joins : List JoinClause
  filter : List Condition
  groupBy : List Expr
  having : List Condition

structure WindowCall where
  function : WindowFunction
  value : Expr
  distance : Nat
  fallback : Option Json
  partitionBy : List ColumnRef
  orderBy : List (ColumnRef × Direction)

inductive SortTarget
  | expr (e : Expr)
  | window (w : WindowCall)

structure Ending where
  orderBy : List (SortTarget × Direction)
  limit : Option Nat

inductive Statement
  | plain (body : Select) (ending : Ending)
  | windowed (base : Select) (windows : List (WindowCall × String)) (ending : Ending)

def clause (keyword separator : String) : List String → List String
  | [] => []
  | parts => [keyword ++ " " ++ separator.intercalate parts]

def labelled (d : Dialect) (text label : String) : String := text ++ " AS " ++ d.quoteName label

def SelectItem.text (d : Dialect) (i : SelectItem) : String :=
  match i.label with
  | none => i.expr.text d
  | some label => labelled d (i.expr.text d) label

def JoinClause.text (d : Dialect) (j : JoinClause) : String :=
  let keyword := match j.kind with
    | .inner => "INNER JOIN"
    | .left => "LEFT JOIN"
  keyword ++ " " ++ d.quoteName j.table ++ " ON " ++ j.left.text d ++ " = " ++ j.right.text d

namespace Select

def fromText (d : Dialect) (s : Select) : String :=
  " ".intercalate (("FROM " ++ d.quoteName s.table) :: s.joins.map (JoinClause.text d))

def parts (d : Dialect) (s : Select) : List String :=
  ("SELECT " ++ ", ".intercalate (s.items.map (SelectItem.text d))) :: s.fromText d ::
    (clause "WHERE" " AND " (s.filter.map (Condition.text d)) ++
      clause "GROUP BY" ", " (s.groupBy.map (Expr.text d)) ++
      clause "HAVING" " AND " (s.having.map (Condition.text d)))

def text (d : Dialect) (s : Select) : String := " ".intercalate (s.parts d)

end Select

namespace WindowCall

def partitionParts (d : Dialect) (w : WindowCall) : List String :=
  clause "PARTITION BY" ", " (w.partitionBy.map (ColumnRef.text d))

def orderParts (d : Dialect) (w : WindowCall) : List String :=
  clause "ORDER BY" ", " (w.orderBy.map fun (c, direction) => sortKey d (c.text d) direction)

def call (name argument : String) (frame : List String) : String :=
  name ++ "(" ++ argument ++ ") OVER (" ++ " ".intercalate frame ++ ")"

def runningFrame : String := "ROWS BETWEEN UNBOUNDED PRECEDING AND CURRENT ROW"

def shifted (d : Dialect) (w : WindowCall) (value : String) : String :=
  value ++ ", " ++ Nat.repr w.distance ++
    match w.fallback with
    | some j => ", " ++ literal d j
    | none => ""

def text (d : Dialect) (w : WindowCall) : String :=
  let value := w.value.text d
  let frame := w.partitionParts d ++ w.orderParts d
  match w.function with
  | .lag => call "LAG" (w.shifted d value) frame
  | .lead => call "LEAD" (w.shifted d value) frame
  | .rank => call "RANK" "" frame
  | .denseRank => call "DENSE_RANK" "" frame
  | .rowNumber => call "ROW_NUMBER" "" frame
  | .runningSum => call "SUM" value (frame ++ [runningFrame])
  | .runningAvg => call "AVG" value (frame ++ [runningFrame])
  | .pctOfTotal =>
    let numeric := d.castNumeric value
    numeric ++ " / NULLIF(" ++ call "SUM" numeric (w.partitionParts d) ++ ", 0)"

end WindowCall

def SortTarget.text (d : Dialect) : SortTarget → String
  | .expr e => e.text d
  | .window w => w.text d

def Ending.parts (d : Dialect) (e : Ending) : List String :=
  clause "ORDER BY" ", " (e.orderBy.map fun (target, direction) =>
      sortKey d (target.text d) direction) ++
    match e.limit with
    | some n => ["LIMIT " ++ Nat.repr n]
    | none => []

namespace Statement

def parts (d : Dialect) : Statement → List String
  | .plain body ending => body.parts d ++ ending.parts d
  | .windowed base windows ending =>
    ("WITH " ++ baseRows ++ " AS (" ++ base.text d ++ ")") ::
      ("SELECT " ++ baseRows ++ ".*, " ++
        ", ".intercalate (windows.map fun (w, label) => labelled d (w.text d) label)) ::
      ("FROM " ++ baseRows) :: ending.parts d

def text (d : Dialect) (s : Statement) : String := " ".intercalate (s.parts d)

def countText (d : Dialect) (s : Statement) : String :=
  "SELECT COUNT(*) AS total_rows FROM (" ++ s.text d ++ ") AS dsl_count"

end Statement
end TableQuery.Sql
