import TableQuery.Json.Basic
import TableQuery.Rows.Arithmetic

namespace TableQuery.Wire

inductive Numeric (α : Type)
  | notANumber
  | number (x : α)

inductive NumericError
  | truncated
deriving DecidableEq, Repr

def NumericError.message : NumericError → String
  | .truncated => "truncated NUMERIC value"

namespace Numeric

variable {α : Type}

def word (high low : UInt8) : Nat := high.toNat * 256 + low.toNat

def words : Nat → List UInt8 → Except NumericError (List Nat)
  | 0, _ => .ok []
  | count + 1, high :: low :: rest => (words count rest).map (word high low :: ·)
  | _ + 1, _ => .error .truncated

def signed (word : Nat) : Int := Int.bmod word 65536

def negativeSign : Nat := 0x4000

def notANumberSign : Nat := 0xC000

def scaleWidth : Nat := 2

section

variable [Arithmetic α]

/-- Squares the base once for each bit of the exponent, from the lowest on. -/
def powerFrom (base result : α) (exponent : Nat) : α :=
  let result := if exponent % 2 = 1 then result * base else result
  if exponent < 2 then result else powerFrom (base * base) result (exponent / 2)
termination_by exponent
decreasing_by omega

def power (base : α) (exponent : Int) : α :=
  let p := powerFrom base (Arithmetic.ofNat 1) exponent.natAbs
  if exponent < 0 then Arithmetic.ofNat 1 / p else p

def total (digits : List Int) (weight : Int) : α :=
  (digits.zipIdx.map fun (digit, index) =>
    Arithmetic.ofInt digit * power (Arithmetic.ofNat 10000) (weight - index)).foldl (· + ·)
      (Arithmetic.ofNat 0)

/-- Any sign but those for negative numbers and for not-a-number stands for a positive number. The
display scale is not read. -/
def decode : List UInt8 → Except NumericError (Numeric α)
  | c₁ :: c₂ :: w₁ :: w₂ :: s₁ :: s₂ :: rest =>
    let sign := word s₁ s₂
    if sign = notANumberSign then .ok .notANumber
    else do
      let digits ← words (signed (word c₁ c₂)).toNat (rest.drop scaleWidth)
      let x := total (digits.map signed) (signed (word w₁ w₂))
      .ok (.number (if sign = negativeSign then -x else x))
  | _ => .error .truncated

end

def toFloat : Numeric Float → Float
  | .notANumber => 0 / 0
  | .number x => x

def cell (n : Numeric Float) : Json := .ofFloat n.toFloat

end Numeric
end TableQuery.Wire
