namespace TableQuery.Decimal

/-- The number `significand * 2 ^ exponent`. -/
structure Binary where
  significand : Nat
  exponent : Int
deriving DecidableEq, Repr

def leastNormal : Nat := 0x10000000000000

def Binary.ofFloat (x : Float) : Binary :=
  let bits := x.toBits.toNat
  let fraction := bits % leastNormal
  let biased := bits / leastNormal % 0x800
  if biased = 0 then ⟨fraction, -1074⟩ else ⟨leastNormal + fraction, Int.ofNat biased - 1075⟩

def isNegative (x : Float) : Bool := x.toBits.toNat >>> 63 = 1

def Binary.whole? (b : Binary) : Option Nat :=
  let unit := Nat.pow 2 (-b.exponent).toNat
  if b.significand % unit = 0 then some (b.significand / unit * Nat.pow 2 b.exponent.toNat)
  else none

def integer? (x : Float) : Option Int :=
  if x.isFinite then
    (Binary.ofFloat x).whole?.map fun (n : Nat) => if isNegative x then -(n : Int) else n
  else none

structure Numeral where
  coefficient : Nat
  exponent : Int
deriving DecidableEq, Repr

namespace Binary

/-- Quarters of a unit in the last place, down to the least number that rounds to `b`: a power of
two has a closer neighbour below. -/
def lowerQuarters (b : Binary) : Nat :=
  if b.significand = leastNormal ∧ b.exponent ≠ -1074 then 1 else 2

/-- A decimal grid of step `10 ^ exponent`, scaled so that a quarter of `b`'s last place is
`quarter` and one step is `step`. -/
structure Grid where
  quarter : Nat
  step : Nat

def grid (b : Binary) (exponent : Int) : Grid where
  quarter := Nat.pow 2 (b.exponent - 2).toNat * Nat.pow 10 (-exponent).toNat
  step := Nat.pow 2 (2 - b.exponent).toNat * Nat.pow 10 exponent.toNat

/-- Whether `c` steps of the grid read back to `b`; both ends count when the significand is even. -/
def readsBack (b : Binary) (g : Grid) (c : Nat) : Bool :=
  let low := (4 * b.significand - b.lowerQuarters) * g.quarter
  let high := (4 * b.significand + 2) * g.quarter
  if b.significand % 2 = 0 then low ≤ c * g.step && c * g.step ≤ high
  else low < c * g.step && c * g.step < high

/-- The grid point that reads back to `b`, the nearer of two, the even one in a tie. -/
def candidate (b : Binary) (g : Grid) : Option Nat :=
  let value := 4 * b.significand * g.quarter
  let below := value / g.step
  let above := below + 1
  match readsBack b g below && below != 0, readsBack b g above with
  | false, false => none
  | true, false => some below
  | false, true => some above
  | true, true =>
    let down := value - below * g.step
    let up := above * g.step - value
    some (if down < up || (down = up && below % 2 = 0) then below else above)

def decade (b : Binary) : Int :=
  let log := (Nat.log2 b.significand : Int) + b.exponent
  let guess := (log * 30103).fdiv 100000 + 1
  let g := b.grid guess
  if g.step ≤ 4 * b.significand * g.quarter then guess + 1 else guess

def shortestFrom (b : Binary) (decade : Int) : Nat → Nat → Numeral
  | 0, digits => ⟨0, decade - digits⟩
  | fuel + 1, digits =>
    match b.candidate (b.grid (decade - digits)) with
    | some c => ⟨c, decade - digits⟩
    | none => shortestFrom b decade fuel (digits + 1)

end Binary

def Numeral.stripZeros (n : Numeral) : Nat → Numeral
  | 0 => n
  | fuel + 1 =>
    if n.coefficient ≠ 0 ∧ n.coefficient % 10 = 0 then
      Numeral.stripZeros ⟨n.coefficient / 10, n.exponent + 1⟩ fuel
    else n

/-- The shortest numeral of the magnitude of a finite number; seventeen digits always suffice. -/
def shortest (x : Float) : Numeral :=
  let b := Binary.ofFloat x
  if b.significand = 0 then ⟨0, 0⟩ else (b.shortestFrom b.decade 18 1).stripZeros 18

end TableQuery.Decimal
