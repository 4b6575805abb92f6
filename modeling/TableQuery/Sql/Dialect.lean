import TableQuery.Decimal.Layout
import TableQuery.Failure
import TableQuery.Query.Basic
import TableQuery.Sql.Quoting
import TableQuery.Text.Lowercase

namespace TableQuery

inductive Dialect
  | sqlite
  | postgres
  | mysql
deriving DecidableEq, Repr

inductive Feature
  | commonTableExpressions
  | windowFunctions
  | orderedSetAggregates
  | populationStddev
deriving DecidableEq, Repr

namespace Dialect

def name : Dialect → String
  | .sqlite => "sqlite"
  | .postgres => "postgres"
  | .mysql => "mysql"

def ofName (s : String) : Except Failure Dialect :=
  let lower := Text.lowercase s
  if lower = "sqlite" || lower = "sqlite3" then .ok .sqlite
  else if lower = "postgres" || lower = "postgresql" || lower = "pg" then .ok .postgres
  else if lower = "mysql" || lower = "mariadb" then .ok .mysql
  else
    .error ⟨.configuration,
      "Unsupported dialect: " ++ s ++ ". Supported dialects: sqlite, postgres, mysql"⟩

def supports : Dialect → Feature → Bool
  | _, .commonTableExpressions => true
  | _, .windowFunctions => true
  | d, .orderedSetAggregates => d = .postgres
  | d, .populationStddev => d ≠ .sqlite

def supportsAggregate (d : Dialect) (f : AggregateFunction) : Bool :=
  if f.isPercentile then d.supports .orderedSetAggregates
  else if f = .stddev then d.supports .populationStddev
  else true

def quoteMark : Dialect → Char
  | .mysql => '`'
  | _ => '"'

def quoteName (d : Dialect) (name : String) : String :=
  String.ofList (Sql.quoteChars d.quoteMark name.toList)

/-- A backslash is an escape character in MySQL's texts only. -/
def quoteText (d : Dialect) (s : String) : String :=
  let cs := if d = .mysql then Sql.doubleBackslashes s.toList else s.toList
  String.ofList (Sql.quoteChars '\x27' cs)

/-- The collation that sorts text without regard to case, where the engine compares bytes. -/
def collation : Dialect → Option String
  | .sqlite => some "NOCASE"
  | _ => none

def castNumeric (d : Dialect) (e : String) : String :=
  let type := match d with
    | .sqlite => "REAL"
    | .postgres => "DOUBLE PRECISION"
    | .mysql => "DOUBLE"
  "CAST(" ++ e ++ " AS " ++ type ++ ")"

/-- A date or a time. A whole number from 1800 to 2200 is a year, any other counts seconds from
1970. -/
def temporal (d : Dialect) (e : String) : String :=
  match d with
  | .sqlite =>
    "(CASE WHEN CAST(" ++ e ++ " AS TEXT) GLOB '[0-9]*' AND CAST(" ++ e ++
      " AS TEXT) NOT GLOB '*[^0-9]*' THEN (CASE WHEN CAST(" ++ e ++
      " AS INTEGER) BETWEEN 1800 AND 2200 THEN printf('%04d-01-01', CAST(" ++ e ++
      " AS INTEGER)) ELSE datetime(CAST(" ++ e ++ " AS INTEGER), 'unixepoch') END) ELSE " ++ e ++
      " END)"
  | .postgres =>
    "(CASE WHEN CAST(" ++ e ++ " AS TEXT) ~ '^[0-9]+$' THEN (CASE WHEN CAST(CAST(" ++ e ++
      " AS TEXT) AS BIGINT) BETWEEN 1800 AND 2200 THEN CAST(MAKE_DATE(CAST(CAST(" ++ e ++
      " AS TEXT) AS INTEGER), 1, 1) AS TIMESTAMP) ELSE CAST(TO_TIMESTAMP(CAST(CAST(" ++ e ++
      " AS TEXT) AS BIGINT)) AT TIME ZONE 'UTC' AS TIMESTAMP) END) ELSE CAST(CAST(" ++ e ++
      " AS TEXT) AS TIMESTAMP) END)"
  | .mysql =>
    "(CASE WHEN CAST(" ++ e ++ " AS CHAR) REGEXP '^[0-9]+$' THEN (CASE WHEN CAST(" ++ e ++
      " AS UNSIGNED) BETWEEN 1800 AND 2200 THEN MAKEDATE(CAST(" ++ e ++
      " AS UNSIGNED), 1) ELSE FROM_UNIXTIME(CAST(" ++ e ++
      " AS UNSIGNED)) END) ELSE CAST(" ++ e ++ " AS DATETIME) END)"

def truncate (d : Dialect) (b : Bucket) (e : String) : String :=
  let v := d.temporal e
  match d with
  | .sqlite =>
    match b with
    | .day => "date(" ++ v ++ ")"
    | .week => "date(" ++ v ++ ", 'weekday 0', '-6 days')"
    | .month => "strftime('%Y-%m-01', " ++ v ++ ")"
    | .quarter =>
      "(CASE WHEN date(" ++ v ++ ") IS NULL THEN NULL ELSE printf('%s-%02d-01', strftime('%Y', " ++
        v ++ "), ((CAST(strftime('%m', " ++ v ++ ") AS INTEGER) - 1) / 3) * 3 + 1) END)"
    | .year => "strftime('%Y-01-01', " ++ v ++ ")"
  | .postgres => "TO_CHAR(DATE_TRUNC('" ++ b.name ++ "', " ++ v ++ "), 'YYYY-MM-DD')"
  | .mysql =>
    match b with
    | .day => "DATE_FORMAT(" ++ v ++ ", '%Y-%m-%d')"
    | .week =>
      "DATE_FORMAT(DATE_SUB(" ++ v ++ ", INTERVAL WEEKDAY(" ++ v ++ ") DAY), '%Y-%m-%d')"
    | .month => "DATE_FORMAT(" ++ v ++ ", '%Y-%m-01')"
    | .quarter =>
      "CONCAT(YEAR(" ++ v ++ "), '-', LPAD((QUARTER(" ++ v ++ ") - 1) * 3 + 1, 2, '0'), '-01')"
    | .year => "DATE_FORMAT(" ++ v ++ ", '%Y-01-01')"

def percentile (d : Dialect) (fraction : Float) (e : String) : String :=
  "PERCENTILE_CONT(" ++ Decimal.Layout.plain.write fraction ++ ") WITHIN GROUP (ORDER BY " ++
    d.castNumeric e ++ ")"

def aggregate? (d : Dialect) (a : AggregateField) (e : String) : Option String :=
  if !d.supportsAggregate a.function then none
  else
    match a.function with
    | .count => some ("COUNT(" ++ e ++ ")")
    | .countDistinct => some ("COUNT(DISTINCT " ++ e ++ ")")
    | .sum => some ("SUM(" ++ e ++ ")")
    | .avg => some ("AVG(" ++ e ++ ")")
    | .min => some ("MIN(" ++ e ++ ")")
    | .max => some ("MAX(" ++ e ++ ")")
    | .median => a.fraction.map (d.percentile · e)
    | .p25 => a.fraction.map (d.percentile · e)
    | .p75 => a.fraction.map (d.percentile · e)
    | .percentile => a.fraction.map (d.percentile · e)
    | .stddev => some ("STDDEV_POP(" ++ d.castNumeric e ++ ")")

end Dialect
end TableQuery
