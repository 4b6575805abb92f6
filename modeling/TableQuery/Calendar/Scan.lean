import TableQuery.Decimal.Reading
import TableQuery.Text.Blank
import TableQuery.Text.Split

namespace TableQuery.Calendar

inductive ScanError
  | tooShort
  | invalid
  | outOfRange
  | beyondCalendar
  | trailing
deriving DecidableEq, Repr

def ScanError.message : ScanError → String
  | .tooShort => "premature end of input"
  | .invalid => "input contains invalid characters"
  | .outOfRange => "input is out of range"
  | .beyondCalendar => "no possible date and time matching input"
  | .trailing => "trailing input"

def scanNumber (width : Nat) (cs : List Char) : Except ScanError (Nat × List Char) :=
  match cs with
  | [] => .error .tooShort
  | c :: _ =>
    if !c.isDigit then .error .invalid
    else
      let digits := (cs.take width).takeWhile Char.isDigit
      let n := Decimal.magnitudeOf digits
      if Decimal.IntegerRange.int64.contains n then .ok (n, cs.drop digits.length) else .error .outOfRange

/-- Exactly two digits. A text is too short for them if it is shorter than two bytes. -/
def scanTwo : List Char → Except ScanError (Nat × List Char)
  | c :: d :: rest =>
    if c.isDigit && d.isDigit then .ok (Decimal.magnitudeOf [c, d], rest) else .error .invalid
  | [c] => .error (if c.utf8Size < 2 then .tooShort else .invalid)
  | [] => .error .tooShort

def scanMark (mark : Char) : List Char → Except ScanError (List Char)
  | [] => .error .tooShort
  | c :: rest => if c = mark then .ok rest else .error .invalid

def scanField (width least greatest : Nat) (cs : List Char) : Except ScanError (Nat × List Char) := do
  let (n, rest) ← scanNumber width (Text.trimLeft cs)
  if least ≤ n ∧ n ≤ greatest then .ok (n, rest) else .error .outOfRange

def scanYear (cs : List Char) : Except ScanError (Int × List Char) := do
  let (year, rest) ← match Text.trimLeft cs with
    | '-' :: rest => do
      let (n, rest) ← scanNumber rest.length rest
      pure (-(n : Int), rest)
    | '+' :: rest => do
      let (n, rest) ← scanNumber rest.length rest
      pure ((n : Int), rest)
    | rest => do
      let (n, rest) ← scanNumber 4 rest
      pure ((n : Int), rest)
  if Decimal.IntegerRange.int32.contains year then .ok (year, rest) else .error .outOfRange

/-- The digits after a decimal point as nanoseconds; those beyond the ninth are dropped. -/
def scanNanoseconds (cs : List Char) : Except ScanError (Nat × List Char) := do
  let (n, rest) ← scanNumber 9 cs
  let read := cs.length - rest.length
  .ok (n * Nat.pow 10 (9 - read), rest.dropWhile Char.isDigit)

def scanFraction (cs : List Char) : Except ScanError (Nat × List Char) :=
  match cs with
  | '.' :: rest => scanNanoseconds rest
  | rest => .ok (0, rest)

/-- Seconds east of Greenwich: `Z`, or a sign, hours and minutes parted by what `skipMark` takes. -/
def scanOffset (skipMark : List Char → Except ScanError (List Char)) (cs : List Char) :
    Except ScanError (Int × List Char) :=
  let signed (negative : Bool) (rest : List Char) : Except ScanError (Int × List Char) := do
    let (hours, rest) ← scanTwo rest
    let rest ← skipMark rest
    let (minutes, rest) ← scanTwo rest
    if 59 < minutes then .error .outOfRange
    let seconds : Int := hours * 3600 + minutes * 60
    .ok (if negative then -seconds else seconds, rest)
  match cs with
  | [] => .error .tooShort
  | c :: rest =>
    if c = 'Z' || c = 'z' then .ok (0, rest)
    else if c = '+' then signed false rest
    else if c = '-' || c = '−' then signed true rest
    else .error .invalid

end TableQuery.Calendar
