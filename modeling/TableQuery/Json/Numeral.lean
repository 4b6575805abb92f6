import TableQuery.Decimal.Reading
import TableQuery.Json.Basic
import TableQuery.Json.Fault

namespace TableQuery.Json

open Decimal (digitValue)
open Decimal.IntegerRange (int64)

/-- Digits taken into a 64-bit significand until it is full; the rest are only counted. -/
structure Significand where
  value : Nat
  taken : Nat
  dropped : Nat
deriving DecidableEq, Repr

def Significand.push (s : Significand) (c : Char) : Significand :=
  let next := s.value * 10 + digitValue c
  if s.dropped = 0 && next < UInt64.size then ⟨next, s.taken + 1, 0⟩
  else ⟨s.value, s.taken, s.dropped + 1⟩

def powerOfTen (n : Nat) : Float := OfScientific.ofScientific 1 false n

def scaleBy : Nat → Float → Int → Option Float
  | 0, x, _ => some x
  | fuel + 1, x, exponent =>
    if exponent.natAbs ≤ 308 then
      if 0 ≤ exponent then
        let y := x * powerOfTen exponent.natAbs
        if y.isInf then none else some y
      else some (x / powerOfTen exponent.natAbs)
    else if x == 0 then some x
    else if 0 ≤ exponent then none
    else scaleBy fuel (x / powerOfTen 308) (exponent + 308)

def scaled (negative : Bool) (significand : Nat) (exponent : Int) : Except Fault Json :=
  match scaleBy 4 significand.toUInt64.toFloat exponent with
  | none => .error .numberOutOfRange
  | some x => .ok (.ofFloat (if negative then -x else x))

def whole (negative : Bool) (significand : Nat) : Json :=
  if !negative then .int significand
  else if significand = 0 || !int64.contains (-significand) then
    .ofFloat (-significand.toUInt64.toFloat)
  else .int (-(significand : Int))

def exponentPart (cs : List Char) : Except Fault (Int × List Char) :=
  let (negative, cs) := match cs with
    | '+' :: rest => (false, rest)
    | '-' :: rest => (true, rest)
    | rest => (false, rest)
  match cs with
  | [] => .error .endInValue
  | c :: _ =>
    if !c.isDigit then .error .invalidNumber
    else
      let n : Int := Decimal.magnitudeOf (cs.takeWhile Char.isDigit)
      .ok (if negative then -n else n, cs.dropWhile Char.isDigit)

/-- What follows the whole digits; `s` has them, and its dropped digits raise the exponent. -/
def afterWhole (negative : Bool) (s : Significand) (cs : List Char) :
    Except Fault (Json × List Char) :=
  match cs with
  | '.' :: rest => do
    let digits := rest.takeWhile Char.isDigit
    let after := rest.dropWhile Char.isDigit
    if digits.isEmpty then .error (if after.isEmpty then .endInValue else .invalidNumber)
    let f := digits.foldl Significand.push ⟨s.value, 0, 0⟩
    let (exponent, after) ← match after with
      | c :: tail => if c = 'e' || c = 'E' then exponentPart tail else .ok (0, after)
      | [] => .ok (0, after)
    let j ← scaled negative f.value (exponent + s.dropped - f.taken)
    .ok (j, after)
  | c :: rest =>
    if c = 'e' || c = 'E' then do
      let (exponent, after) ← exponentPart rest
      let j ← scaled negative s.value (exponent + s.dropped)
      .ok (j, after)
    else if s.dropped = 0 then .ok (whole negative s.value, cs)
    else do .ok (← scaled negative s.value s.dropped, cs)
  | [] =>
    if s.dropped = 0 then .ok (whole negative s.value, [])
    else do .ok (← scaled negative s.value s.dropped, [])

def numeral (negative : Bool) (cs : List Char) : Except Fault (Json × List Char) :=
  match cs with
  | [] => .error .endInValue
  | '0' :: rest =>
    match rest with
    | d :: _ => if d.isDigit then .error .invalidNumber else afterWhole negative ⟨0, 0, 0⟩ rest
    | [] => afterWhole negative ⟨0, 0, 0⟩ rest
  | c :: _ =>
    if !c.isDigit then .error .invalidNumber
    else
      afterWhole negative ((cs.takeWhile Char.isDigit).foldl Significand.push ⟨0, 0, 0⟩)
        (cs.dropWhile Char.isDigit)

def skipExponent (cs : List Char) : Except Fault (List Char) :=
  let digits := match cs with
    | '+' :: rest => rest
    | '-' :: rest => rest
    | rest => rest
  if (digits.takeWhile Char.isDigit).isEmpty then .error .invalidNumber
  else .ok (digits.dropWhile Char.isDigit)

def skipAfterFraction (cs : List Char) : Except Fault (List Char) :=
  match cs with
  | [] => .ok []
  | c :: rest => if c = 'e' || c = 'E' then skipExponent rest else .ok cs

def skipAfterWhole (cs : List Char) : Except Fault (List Char) :=
  match cs with
  | '.' :: rest =>
    if (rest.takeWhile Char.isDigit).isEmpty then .error .invalidNumber
    else skipAfterFraction (rest.dropWhile Char.isDigit)
  | _ => skipAfterFraction cs

def skipNumeral (cs : List Char) : Except Fault (List Char) :=
  match cs with
  | [] => .error .invalidNumber
  | '0' :: rest =>
    match rest with
    | d :: _ => if d.isDigit then .error .invalidNumber else skipAfterWhole rest
    | [] => .ok []
  | c :: _ =>
    if c.isDigit then skipAfterWhole (cs.dropWhile Char.isDigit) else .error .invalidNumber

end TableQuery.Json
