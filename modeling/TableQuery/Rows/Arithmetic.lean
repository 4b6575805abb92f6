namespace TableQuery

class Arithmetic (α : Type) extends Add α, Sub α, Mul α, Div α, Neg α where
  ofNat : Nat → α
  emptySum : α
  isZero : α → Bool
  isFraction : α → Bool
  floor : α → Nat
  ceil : α → Nat

/-- Negative zero is neutral for every sum, positive zero is not. Words are cut off at the point. -/
instance : Arithmetic Float where
  ofNat := Float.ofNat
  emptySum := -0.0
  isZero x := x == 0
  isFraction x := 0 ≤ x && x ≤ 1
  floor x := x.toUInt64.toNat
  ceil x :=
    let n := x.toUInt64
    if n.toFloat < x ∧ n.toNat + 1 < UInt64.size then n.toNat + 1 else n.toNat

namespace Arithmetic

variable {α : Type} [Arithmetic α]

def ofInt (n : Int) : α := if n < 0 then -ofNat n.natAbs else ofNat n.natAbs

def sum (xs : List α) : α := xs.foldl (· + ·) emptySum

def mean (xs : List α) : Option α :=
  if xs.isEmpty then none else some (sum xs / ofNat xs.length)

/-- The order statistic at fraction `p` of an ascending list, between two neighbours in proportion
to where `p` falls. -/
def percentile (sorted : List α) (p : α) : Option α :=
  if sorted.isEmpty || !isFraction p then none
  else
    let index := p * ofNat (sorted.length - 1)
    let lower := floor index
    let upper := ceil index
    if lower = upper then sorted[lower]?
    else
      match sorted[lower]?, sorted[upper]? with
      | some a, some b => some (a + (b - a) * (index - ofNat lower))
      | _, _ => none

def variance (xs : List α) : Option α :=
  (mean xs).map fun m => sum (xs.map fun x => (x - m) * (x - m)) / ofNat xs.length

/-- Sums and counts of the numbers up to each place; places without a number keep both. -/
def running (total : α) (count : Nat) : List (Option α) → List (α × Nat)
  | [] => []
  | none :: rest => (total, count) :: running total count rest
  | some x :: rest => (total + x, count + 1) :: running (total + x) (count + 1) rest

def shares (xs : List (Option α)) : List (Option α) :=
  let total := sum (xs.filterMap id)
  xs.map fun x => if isZero total then none else x.map (· / total)

end Arithmetic
end TableQuery
