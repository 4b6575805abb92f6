import TableQuery.Calendar.Date
import TableQuery.Decimal.Reading
import TableQuery.Json.Basic
import TableQuery.Text.Utf8

namespace TableQuery.Wire.MySql

structure Clock where
  hour : Nat
  minute : Nat
  second : Nat
  microsecond : Nat
deriving DecidableEq, Repr

inductive Value
  | null
  | bytes (raw : List UInt8)
  | int (n : Int)
  | uint (n : Nat)
  | float (x : Float32)
  | double (x : Float)
  | date (year month day : Nat) (clock : Clock)
  | time (negative : Bool) (days : Nat) (clock : Clock)

inductive ColumnKind
  | integer
  | real
  | text
deriving DecidableEq, Repr

def integerTypes : List String := ["TINY", "SHORT", "INT24", "LONG", "LONGLONG", "YEAR"]

def realTypes : List String := ["DECIMAL", "NEWDECIMAL", "FLOAT", "DOUBLE"]

def ColumnKind.ofType (name : String) : ColumnKind :=
  if integerTypes.contains name then .integer
  else if realTypes.contains name then .real
  else .text

open Decimal (IntegerRange)

def readInteger? (text : List Char) : Option Int :=
  (IntegerRange.int64.read text).toOption.or (IntegerRange.uint64.read text).toOption

/-- Text that does not read as its column's kind stays text. -/
def textCell (kind : ColumnKind) (text : String) : Json :=
  match kind with
  | .integer => ((readInteger? text.toList).map Json.int).getD (.str text)
  | .real =>
    match (Decimal.readFloat text.toList).map Json.ofFloat with
    | some (.float x) => .float x
    | _ => .str text
  | .text => .str text

def Clock.isMidnight (c : Clock) : Bool := c = ⟨0, 0, 0, 0⟩

def Clock.minutesText (c : Clock) : String :=
  Calendar.padLeft 2 c.minute ++ ":" ++ Calendar.padLeft 2 c.second

def dateText (year month day : Nat) : String :=
  Calendar.padLeft 4 year ++ "-" ++ Calendar.padLeft 2 month ++ "-" ++ Calendar.padLeft 2 day

/-- Hours are counted in 32 bits: none when they do not fit. -/
def hours? (days hour : Nat) : Option Nat :=
  if days * 24 + hour < UInt32.size then some (days * 24 + hour) else none

def cell? (kind : ColumnKind) : Value → Option Json
  | .null => some .null
  | .bytes raw => some (textCell kind (Text.Utf8.decodeLossy raw))
  | .int n => some (.int n)
  | .uint n => some (.ofNat n)
  | .float x => some (.ofFloat x.toFloat)
  | .double x => some (.ofFloat x)
  | .date year month day clock =>
    let day := dateText year month day
    some (.str (if clock.isMidnight then day
      else day ++ " " ++ Calendar.padLeft 2 clock.hour ++ ":" ++ clock.minutesText))
  | .time negative days clock =>
    (hours? days clock.hour).map fun hours =>
      .str ((if negative then "-" else "") ++ Nat.repr hours ++ ":" ++ clock.minutesText)

end TableQuery.Wire.MySql
