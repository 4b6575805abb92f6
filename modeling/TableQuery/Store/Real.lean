import TableQuery.Decimal.FloatPair
import TableQuery.Decimal.Reading
import TableQuery.Decimal.Shortest

namespace TableQuery.Store.Real

open Decimal (FloatPair Numeral Parts)

def digitRoom : Nat := (UInt64.size - 10) / 10

def zeroRoom : Nat := (UInt64.size - 0x800) / 10

def wordDigits : Nat := 20

def pushWhole (n : Numeral) (c : Char) : Numeral :=
  if n.coefficient < digitRoom then ⟨n.coefficient * 10 + Decimal.digitValue c, n.exponent⟩
  else ⟨n.coefficient, n.exponent + 1⟩

def pushFraction (n : Numeral) (c : Char) : Numeral :=
  if n.coefficient < digitRoom then ⟨n.coefficient * 10 + Decimal.digitValue c, n.exponent - 1⟩
  else n

/-- The first digits of a numeral, as many as a word holds; an exponent is cut at five digits. -/
def leading (p : Parts) : Numeral :=
  let n := p.fraction.foldl pushFraction (p.whole.foldl pushWhole ⟨0, 0⟩)
  ⟨n.coefficient, n.exponent + max (-10000) (min 10000 p.exponent)⟩

/-- Moves zeros between the significand and the exponent, so as to bring the exponent near 0. -/
def balance : Nat → Numeral → Numeral
  | 0, n => n
  | fuel + 1, n =>
    if 0 < n.exponent ∧ n.coefficient < zeroRoom then
      balance fuel ⟨n.coefficient * 10, n.exponent - 1⟩
    else if n.exponent < 0 ∧ n.coefficient % 10 = 0 then
      balance fuel ⟨n.coefficient / 10, n.exponent + 1⟩
    else n

def ofParts (p : Parts) : Float :=
  let n := leading p
  if n.coefficient = 0 then 0
  else
    let n := balance wordDigits n
    let x := ((FloatPair.ofWord n.coefficient).scale n.exponent).toFloat
    if x.isNaN then 1 / 0 else x

def precision : Nat := 15

/-- A number on its way to a whole one: the pair times ten to the power of the exponent. -/
structure Scaled where
  pair : FloatPair
  exponent : Int

def lowerTo (bound : Float) (factor : FloatPair) (places : Nat) : Nat → Scaled → Scaled
  | 0, s => s
  | fuel + 1, s =>
    if bound < s.pair.high then
      lowerTo bound factor places fuel ⟨s.pair.mul factor, s.exponent + places⟩
    else s

def raiseTo (bound : Float) (factor : FloatPair) (places : Nat) : Nat → Scaled → Scaled
  | 0, s => s
  | fuel + 1, s =>
    if s.pair.high < bound then
      raiseTo bound factor places fuel ⟨s.pair.mul factor, s.exponent - places⟩
    else s

/-- A positive number with eighteen or nineteen whole digits. No step is taken ten times. -/
def toWord (x : Float) : Scaled :=
  let s : Scaled := ⟨⟨x, 0⟩, 0⟩
  if 9.223372036854774784e+18 < x then
    lowerTo 9.223372036854774784e+18 .tenth 1 wordDigits
      (lowerTo 9.223372036854774784e+28 .tenth10 10 wordDigits
        (lowerTo 9.223372036854774784e+118 .tenth100 100 wordDigits s))
  else
    raiseTo 9.22337203685477478e+17 .e1 1 wordDigits
      (raiseTo 9.223372036854774784e+07 .e10 10 wordDigits
        (raiseTo 9.223372036854774784e-83 .e100 100 wordDigits s))

def numeral (x : Float) : Numeral :=
  let s := toWord x
  let word := s.pair.toWord
  let dropped := (Nat.repr word).length - precision
  let unit := Nat.pow 10 dropped
  Numeral.stripZeros ⟨(word + unit / 2) / unit, s.exponent + dropped⟩ (precision + 1)

def exponentChars (e : Int) : List Char :=
  let digits := (Nat.repr e.natAbs).toList
  'e' :: (if e < 0 then '-' else '+') :: (if digits.length < 2 then '0' :: digits else digits)

def pointed (digits : List Char) (whole : Nat) : List Char :=
  let fraction := digits.drop whole
  let missing := List.replicate (whole - digits.length) '0'
  (if whole = 0 then ['0'] else digits.take whole ++ missing) ++ '.' ::
    (if fraction.isEmpty then ['0'] else fraction)

def layout (n : Numeral) : List Char :=
  let digits := (Nat.repr n.coefficient).toList
  let exponent := digits.length + n.exponent - 1
  if exponent < -4 || Int.ofNat precision ≤ exponent then
    pointed digits 1 ++ exponentChars exponent
  else if exponent < 0 then
    pointed (List.replicate (-exponent - 1).toNat '0' ++ digits) 0
  else pointed digits (exponent.toNat + 1)

def text (x : Float) : String :=
  if x.isInf then (if x < 0 then "-Inf" else "Inf")
  else if x == 0 then "0.0"
  else if x < 0 then String.ofList ('-' :: layout (numeral (-x)))
  else String.ofList (layout (numeral x))

end TableQuery.Store.Real
