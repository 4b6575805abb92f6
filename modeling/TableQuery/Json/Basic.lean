namespace TableQuery

/-- A finite binary64 number, the only kind of float that JSON can write. -/
structure FiniteFloat where
  val : Float
  finite : val.isFinite = true
deriving DecidableEq

inductive Json
  | null
  | bool (b : Bool)
  | int (n : Int)
  | float (x : FiniteFloat)
  | str (s : String)
  | arr (items : List Json)
  | obj (fields : List (String × Json))
deriving Inhabited

namespace Json

def ofFloat (x : Float) : Json :=
  if h : x.isFinite = true then .float ⟨x, h⟩ else .null

def ofNat (n : Nat) : Json := .int n

def ofStrings (ss : List String) : Json := .arr (ss.map .str)

def isNull : Json → Bool
  | .null => true
  | _ => false

def isNumber : Json → Bool
  | .int _ => true
  | .float _ => true
  | _ => false

def str? : Json → Option String
  | .str s => some s
  | _ => none

def field? (name : String) : Json → Option Json
  | .obj fields => (fields.find? (·.1 = name)).map (·.2)
  | _ => none

/-- The last value put under a name stands where the first one stood. -/
def putField (name : String) (j : Json) : List (String × Json) → List (String × Json)
  | [] => [(name, j)]
  | (other, k) :: rest =>
    if other = name then (name, j) :: rest else (other, k) :: putField name j rest

end Json

def intToFloat (n : Int) : Float :=
  if n < 0 then -Float.ofNat n.natAbs else Float.ofNat n.natAbs

end TableQuery
