namespace TableQuery.Decimal

inductive IntegerError
  | empty
  | invalidDigit
  | tooLarge
  | tooSmall
deriving DecidableEq, Repr

def IntegerError.message : IntegerError → String
  | .empty => "cannot parse integer from empty string"
  | .invalidDigit => "invalid digit found in string"
  | .tooLarge => "number too large to fit in target type"
  | .tooSmall => "number too small to fit in target type"

def digitValue (c : Char) : Nat := c.toNat - '0'.toNat

/-- Reads digits from the left and stops at the first one that is no digit or that passes the
bound. -/
def readMagnitude (bound : Nat) (overflow : IntegerError) : Nat → List Char → Except IntegerError Nat
  | n, [] => .ok n
  | n, c :: rest =>
    if !c.isDigit then .error .invalidDigit
    else if bound < n * 10 + digitValue c then .error overflow
    else readMagnitude bound overflow (n * 10 + digitValue c) rest

structure IntegerRange where
  least : Int
  greatest : Int

namespace IntegerRange

def int32 : IntegerRange := ⟨Int32.minValue.toInt, Int32.maxValue.toInt⟩
def int64 : IntegerRange := ⟨Int64.minValue.toInt, Int64.maxValue.toInt⟩
def uint16 : IntegerRange := ⟨0, UInt16.size - 1⟩
def uint32 : IntegerRange := ⟨0, UInt32.size - 1⟩
def uint64 : IntegerRange := ⟨0, UInt64.size - 1⟩

def contains (r : IntegerRange) (n : Int) : Bool := r.least ≤ n && n ≤ r.greatest

def read (r : IntegerRange) (text : List Char) : Except IntegerError Int :=
  let positive (digits : List Char) : Except IntegerError Int :=
    if digits.isEmpty then .error .invalidDigit
    else (readMagnitude r.greatest.toNat .tooLarge 0 digits).map Int.ofNat
  match text with
  | [] => .error .empty
  | '+' :: digits => positive digits
  | '-' :: digits =>
    if r.least = 0 || digits.isEmpty then .error .invalidDigit
    else (readMagnitude r.least.natAbs .tooSmall 0 digits).map fun n => -(n : Int)
  | digits => positive digits

end IntegerRange

structure Parts where
  whole : List Char
  fraction : List Char
  exponent : Int

def magnitudeOf (digits : List Char) : Nat :=
  digits.foldl (fun n c => n * 10 + digitValue c) 0

/-- The value nearest to the numeral; far exponents are settled without building the power. -/
def Parts.toFloat (p : Parts) : Float :=
  let coefficient := magnitudeOf (p.whole ++ p.fraction)
  let exponent := p.exponent - p.fraction.length
  let leading : Int := (p.whole ++ p.fraction).length + exponent
  if coefficient = 0 then 0
  else if leading < -400 then 0
  else if 400 + (p.whole ++ p.fraction).length < leading then 1 / 0
  else OfScientific.ofScientific coefficient (exponent < 0) exponent.natAbs

def readExponent : List Char → Option Int
  | [] => some 0
  | c :: rest =>
    if c = 'e' || c = 'E' then
      let (negative, digits) := match rest with
        | '+' :: digits => (false, digits)
        | '-' :: digits => (true, digits)
        | digits => (false, digits)
      if digits.isEmpty || !digits.all Char.isDigit then none
      else
        let n : Int := magnitudeOf digits
        some (if negative then -n else n)
    else none

def readParts (text : List Char) : Option Parts :=
  let whole := text.takeWhile Char.isDigit
  let rest := text.dropWhile Char.isDigit
  let (fraction, rest) := match rest with
    | '.' :: rest => (rest.takeWhile Char.isDigit, rest.dropWhile Char.isDigit)
    | rest => ([], rest)
  if whole.isEmpty && fraction.isEmpty then none
  else (readExponent rest).map fun exponent => ⟨whole, fraction, exponent⟩

def readUnsigned (text : List Char) : Option Float :=
  match (text.map Char.toLower) with
  | ['i', 'n', 'f'] => some (1 / 0)
  | ['i', 'n', 'f', 'i', 'n', 'i', 't', 'y'] => some (1 / 0)
  | ['n', 'a', 'n'] => some (0 / 0)
  | _ => (readParts text).map Parts.toFloat

/-- A signed numeral, or one of the words for infinity and not-a-number in any case. -/
def readFloat (text : List Char) : Option Float :=
  match text with
  | '+' :: rest => readUnsigned rest
  | '-' :: rest => (readUnsigned rest).map (-·)
  | rest => readUnsigned rest

end TableQuery.Decimal
