import TableQuery.Json.Basic
import TableQuery.Store.Real
import TableQuery.Text.Utf8

namespace TableQuery.Store

inductive Value
  | null
  | integer (n : Int)
  | real (x : Float)
  | text (s : String)
  | blob (bytes : List UInt8)

/-- A real without a number in JSON is null. -/
def Value.cell : Value → Json
  | .null => .null
  | .integer n => .int n
  | .real x => .ofFloat x
  | .text s => .str s
  | .blob bytes => .str (Text.Utf8.decodeLossy bytes)

inductive Affinity
  | blob
  | text
  | numeric
  | integer
  | real
deriving DecidableEq, Repr

namespace Value

def asInteger (x : Float) : Value :=
  let n := x.toInt64.toInt
  if intToFloat n == x && Int64.minValue.toInt < n && n < Int64.maxValue.toInt then .integer n else .real x

def isSpace (c : Char) : Bool := c = ' ' || ('\t' ≤ c && c ≤ '\r')

def ofNumeral? (s : String) : Option Value :=
  let cs := ((s.toList.dropWhile isSpace).reverse.dropWhile isSpace).reverse
  match (Decimal.IntegerRange.int64.read cs).toOption with
  | some n => some (.integer n)
  | none =>
    let (negative, magnitude) := match cs with
      | '-' :: rest => (true, rest)
      | '+' :: rest => (false, rest)
      | rest => (false, rest)
    (Decimal.readParts magnitude).map fun parts =>
      let x := Real.ofParts parts
      asInteger (if negative then -x else x)

def toReal : Value → Value
  | .integer n => .real (intToFloat n)
  | .real x => if x == 0 then .real 0 else .real x
  | v => v

def toNumeric : Value → Value
  | .real x => asInteger x
  | .text s => (ofNumeral? s).getD (.text s)
  | v => v

def toText : Value → Value
  | .integer n => .text (toString n)
  | .real x => .text (Real.text x)
  | v => v

def normal : Value → Value
  | .real x => if x.isNaN then .null else .real x
  | v => v

def keptBy (affinity : Affinity) (v : Value) : Value :=
  match affinity with
  | .blob => v.normal
  | .text => v.normal.toText
  | .numeric => v.normal.toNumeric
  | .integer => v.normal.toNumeric
  | .real =>
    match v.normal with
    | .text s => ((ofNumeral? s).map toReal).getD (.text s)
    | w => w.toReal

end Value
end TableQuery.Store
