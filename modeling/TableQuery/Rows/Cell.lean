import TableQuery.Calendar.Bucket
import TableQuery.Calendar.Instant
import TableQuery.Decimal.Reading
import TableQuery.Json.Printer
import TableQuery.Query.Basic
import TableQuery.Text.Lowercase

namespace TableQuery.Cell

def number? : Json → Option Float
  | .int n => some (intToFloat n)
  | .float x => some x.val
  | .str s => (Decimal.readFloat (Text.trimChars s.toList)).filter (·.isFinite)
  | _ => none

def text? : Json → Option String
  | .null => none
  | .str s => some s
  | j => some j.render

def isMissing : Option Json → Bool
  | none => true
  | some j => j.isNull

/-- Below this magnitude binary64 has every integer. -/
def exactBound : Nat := 9007199254740992

/-- A computed number: an integer if it is whole and exact, null if it is not finite. -/
def ofNumber (x : Float) : Json :=
  match (Decimal.integer? x).filter fun n => n.natAbs < exactBound with
  | some n => .int n
  | none => .ofFloat x

/-- The form in which a cell leaves: `20.0` and `20` are written alike. -/
def canonical : Json → Json
  | .float x => ofNumber x.val
  | j => j

def compareFloats (x y : Float) : Ordering := if x < y then .lt else if y < x then .gt else .eq

def compareStrings (a b : String) : Ordering := if a < b then .lt else if b < a then .gt else .eq

/-- Without regard to case, then lowercase first. -/
def compareText (a b : String) : Ordering :=
  (compareStrings (Text.lowercase a) (Text.lowercase b)).then (compareStrings b a)

def compareValues (a b : Json) : Ordering :=
  match number? a, number? b with
  | some x, some y => compareFloats x y
  | _, _ => compareText ((text? a).getD "") ((text? b).getD "")

/-- Ascending order, with missing cells last. -/
def compare (a b : Option Json) : Ordering :=
  match isMissing a, isMissing b with
  | true, true => .eq
  | true, false => .gt
  | false, true => .lt
  | false, false => compareValues (a.getD .null) (b.getD .null)

def compareDirected (a b : Option Json) : Direction → Ordering
  | .asc => compare a b
  | .desc => (compare a b).swap

def equal (a b : Json) : Bool :=
  match number? a, number? b with
  | some x, some y => x == y
  | _, _ => text? a = text? b

def keySeparator : String := "\x1f"

def nullKey : String := "\x00"

def keyPart : Option Json → String
  | none => nullKey
  | some j => (text? j).getD nullKey

def groupKey (parts : List (Option Json)) : String :=
  keySeparator.intercalate (parts.map keyPart)

def isYear (n : Int) : Bool := 1800 ≤ n && n ≤ 2200

def dateOfDigits (digits : List Char) : Option Calendar.Date :=
  match Decimal.IntegerRange.int64.read digits with
  | .error _ => none
  | .ok n =>
    if isYear n then some ⟨n, 1, 1⟩
    else (Calendar.Instant.ofUnixSeconds? n).map (·.date)

/-- A year, seconds from 1970, or a written date or time. -/
def date? (j : Json) : Option Calendar.Date :=
  (text? j).bind fun s =>
    let cs := Text.trimChars s.toList
    if !cs.isEmpty && cs.all Char.isDigit then dateOfDigits cs else Calendar.readDate? cs

/-- The first day of the cell's period as text, null without a date; none when that day lies before
the calendar. -/
def bucket? (j : Json) (b : Bucket) : Option Json :=
  match date? j with
  | none => some .null
  | some d => (b.start? d).map fun s => .str s.text

end TableQuery.Cell
