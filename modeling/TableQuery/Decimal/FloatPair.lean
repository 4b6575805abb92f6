namespace TableQuery.Decimal

structure FloatPair where
  high : Float
  low : Float

namespace FloatPair

/-- A float without the last 26 bits of its significand. Two such halves have an exact product. -/
def upperHalf (x : Float) : Float := .ofBits (x.toBits &&& 0xFFFFFFFFFC000000)

def mul (x y : FloatPair) : FloatPair :=
  let (upperX, upperY) := (upperHalf x.high, upperHalf y.high)
  let (lowerX, lowerY) := (x.high - upperX, y.high - upperY)
  let p := upperX * upperY
  let q := upperX * lowerY + lowerX * upperY
  let c := p + q
  let e := x.high * y.low + x.low * y.high + (p - c + q + lowerX * lowerY)
  let high := c + e
  ⟨high, c - high + e⟩

def toFloat (x : FloatPair) : Float := x.high + x.low

def greatestWord : Float := 18446744073709549568.0

def ofWord (n : Nat) : FloatPair :=
  let high := n.toUInt64.toFloat
  let whole := high.toUInt64.toNat
  if greatestWord < high then ⟨high, 0⟩
  else if whole ≤ n then ⟨high, (n - whole).toUInt64.toFloat⟩
  else ⟨high, -(whole - n).toUInt64.toFloat⟩

def toWord (x : FloatPair) : Nat :=
  if x.low < 0 then x.high.toUInt64.toNat - (-x.low).toUInt64.toNat
  else x.high.toUInt64.toNat + x.low.toUInt64.toNat

/-- Powers of ten with the parts that a float leaves out. -/
def e100 : FloatPair := ⟨1.0e+100, -1.5902891109759918046e+83⟩
def e10 : FloatPair := ⟨1.0e+10, 0⟩
def e1 : FloatPair := ⟨1.0e+1, 0⟩
def tenth : FloatPair := ⟨1.0e-1, -5.5511151231257827021e-18⟩
def tenth10 : FloatPair := ⟨1.0e-10, -3.6432197315497741579e-27⟩
def tenth100 : FloatPair := ⟨1.0e-100, -1.99918998026028836196e-117⟩

def mulTimes (factor : FloatPair) : Nat → FloatPair → FloatPair
  | 0, x => x
  | n + 1, x => mulTimes factor n (x.mul factor)

def scale (x : FloatPair) (exponent : Int) : FloatPair :=
  let n := exponent.natAbs
  let (hundred, ten, one) := if 0 ≤ exponent then (e100, e10, e1) else (tenth100, tenth10, tenth)
  mulTimes one (n % 10) (mulTimes ten (n / 10 % 10) (mulTimes hundred (n / 100) x))

end FloatPair
end TableQuery.Decimal
