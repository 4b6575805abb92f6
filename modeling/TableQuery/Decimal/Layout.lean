import TableQuery.Decimal.Shortest

namespace TableQuery.Decimal

/-- A number `0.d₁d₂…` times `10 ^ point` is written positionally when `point` is in range. -/
structure Layout where
  positional : Int → Bool
  wholeSuffix : List Char

/-- Positional from `0.00001` up to sixteen whole digits, always with a fraction or an exponent. -/
def Layout.json : Layout := ⟨fun point => -4 ≤ point && point ≤ 16, ['.', '0']⟩

def Layout.plain : Layout := ⟨fun _ => true, []⟩

def zeros (n : Nat) : List Char := List.replicate n '0'

def exponentText (e : Int) : List Char :=
  'e' :: (if e < 0 then '-' else '+') :: (Nat.repr e.natAbs).toList

def Layout.magnitude (l : Layout) (n : Numeral) : List Char :=
  let digits := (Nat.repr n.coefficient).toList
  let point := digits.length + n.exponent
  if n.coefficient = 0 then '0' :: l.wholeSuffix
  else if l.positional point then
    if point ≤ 0 then '0' :: '.' :: zeros (-point).toNat ++ digits
    else if 0 ≤ n.exponent then digits ++ zeros n.exponent.toNat ++ l.wholeSuffix
    else digits.take point.toNat ++ '.' :: digits.drop point.toNat
  else
    match digits with
    | [] => []
    | [d] => d :: exponentText (point - 1)
    | d :: rest => d :: '.' :: rest ++ exponentText (point - 1)

def Layout.write (l : Layout) (x : Float) : String :=
  let text := l.magnitude (shortest x)
  String.ofList (if isNegative x then '-' :: text else text)

end TableQuery.Decimal
