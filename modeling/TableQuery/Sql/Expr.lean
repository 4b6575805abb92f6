import TableQuery.Json.Printer
import TableQuery.Query.Names
import TableQuery.Sql.Dialect

namespace TableQuery.Sql

def baseRows : String := "dsl_base"

inductive ColumnRef
  | star
  | bare (column : String)
  | qualified (table column : String)
  | ofBaseRows (column : String)
deriving DecidableEq, Repr

inductive Expr
  | null
  | given (text : String)
  | column (c : ColumnRef)
  | numeric (e : Expr)
  | truncated (b : Bucket) (e : Expr)
  | aggregate (a : AggregateField) (e : Expr)

/-- A field of a query; `*` alone stands for every column. -/
def ColumnRef.ofField (field : String) : ColumnRef :=
  match FieldRef.ofField field with
  | ⟨some table, column⟩ => .qualified table column
  | ⟨none, column⟩ => if column = "*" then .star else .bare column

def ColumnRef.text (d : Dialect) : ColumnRef → String
  | .star => "*"
  | .bare column => d.quoteName column
  | .qualified table column => d.quoteName table ++ "." ++ d.quoteName column
  | .ofBaseRows column => baseRows ++ "." ++ d.quoteName column

namespace Expr

def ofField (field : String) : Expr := .column (.ofField field)

/-- What stands for an aggregate that the dialect does not have. -/
def placeholder : String := "NULL"

def text (d : Dialect) : Expr → String
  | .null => "NULL"
  | .given text => text
  | .column c => c.text d
  | .numeric e => d.castNumeric (e.text d)
  | .truncated b e => d.truncate b (e.text d)
  | .aggregate a e => (d.aggregate? a (e.text d)).getD placeholder

end Expr

def literal (d : Dialect) : Json → String
  | .null => "NULL"
  | .bool true => "TRUE"
  | .bool false => "FALSE"
  | .str s => d.quoteText s
  | .int n => (Json.int n).render
  | .float x => (Json.float x).render
  | .arr items => d.quoteText (Json.arr items).render
  | .obj fields => d.quoteText (Json.obj fields).render

structure Condition where
  expr : Expr
  filter : Filter

namespace Condition

def subject (c : Condition) : Expr := if c.filter.isNumeric then .numeric c.expr else c.expr

def always : String := "1 = 1"

def never : String := "1 = 0"

def compared (d : Dialect) (e operator : String) (ifAbsent : String) : Option Json → String
  | none => ifAbsent
  | some .null => ifAbsent
  | some value => e ++ " " ++ operator ++ " " ++ literal d value

def operandItems : Option Json → List Json
  | none => []
  | some .null => []
  | some (.arr items) => items
  | some scalar => [scalar]

def listed (d : Dialect) (e operator : String) (ifEmpty : String) (items : List Json) : String :=
  if items.isEmpty then ifEmpty
  else e ++ " " ++ operator ++ " (" ++ ", ".intercalate (items.map (literal d)) ++ ")"

def text (d : Dialect) (c : Condition) : String :=
  let e := c.subject.text d
  let value := c.filter.value
  match c.filter.op with
  | .eq => compared d e "=" (e ++ " IS NULL") value
  | .notEq => compared d e "<>" (e ++ " IS NOT NULL") value
  | .gt => compared d e ">" never value
  | .gte => compared d e ">=" never value
  | .lt => compared d e "<" never value
  | .lte => compared d e "<=" never value
  | .isIn => listed d e "IN" never (operandItems value)
  | .notIn => listed d e "NOT IN" always (operandItems value)
  | .between =>
    match value with
    | some (.arr [low, high]) =>
      e ++ " BETWEEN " ++ literal d low ++ " AND " ++ literal d high
    | _ => always
  | .isNull => e ++ " IS NULL"
  | .isNotNull => e ++ " IS NOT NULL"

end Condition

/-- One sort key: missing values last ascending and first descending, text without regard to case
and then lowercase first. -/
def sortKey (d : Dialect) (e : String) (direction : Direction) : String :=
  match direction, d.collation with
  | .asc, none => "(" ++ e ++ " IS NULL), " ++ e ++ " ASC"
  | .desc, none => "(" ++ e ++ " IS NULL) DESC, " ++ e ++ " DESC"
  | .asc, some c =>
    "(" ++ e ++ " IS NULL), " ++ e ++ " COLLATE " ++ c ++ " ASC, " ++ e ++ " DESC"
  | .desc, some c =>
    "(" ++ e ++ " IS NULL) DESC, " ++ e ++ " COLLATE " ++ c ++ " DESC, " ++ e ++ " ASC"

end TableQuery.Sql
