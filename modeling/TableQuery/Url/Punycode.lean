import TableQuery.Text.Split

namespace TableQuery.Url.Punycode

def digit (n : Nat) : Char := if n < 26 then Char.ofNat (97 + n) else Char.ofNat (22 + n)

def threshold (bias place : Nat) : Nat := min 26 (max 1 (36 * place - bias))

def digits (bias : Nat) : Nat → Nat → Nat → List Char
  | 0, _, n => [digit n]
  | fuel + 1, place, n =>
    let t := threshold bias place
    if n < t then [digit n]
    else digit (t + (n - t) % (36 - t)) :: digits bias fuel (place + 1) ((n - t) / (36 - t))

def settle : Nat → Nat → Nat → Nat
  | 0, delta, steps => 36 * steps + 36 * delta / (delta + 38)
  | fuel + 1, delta, steps =>
    if 455 < delta then settle fuel (delta / 35) (steps + 1)
    else 36 * steps + 36 * delta / (delta + 38)

def adapt (delta count : Nat) (isFirst : Bool) : Nat :=
  let delta := if isFirst then delta / 700 else delta / 2
  settle delta (delta + delta / count) 0

structure State where
  next : Nat
  delta : Nat
  bias : Nat
  handled : Nat
  out : List Char

/-- Writes out the occurrences of one character and counts the smaller ones around them. -/
def writeChar (basic : Nat) (c : Nat) (s : State) (label : List Nat) : State :=
  let start := { s with delta := s.delta + (c - s.next) * (s.handled + 1), next := c }
  let done := label.foldl (fun s other =>
    if other < c then { s with delta := s.delta + 1 }
    else if other = c then
      { s with
        out := s.out ++ digits s.bias s.delta 1 s.delta
        bias := adapt s.delta (s.handled + 1) (s.handled = basic)
        delta := 0
        handled := s.handled + 1 }
    else s) start
  { done with delta := done.delta + 1, next := done.next + 1 }

def encode (label : List Char) : List Char :=
  let basic := label.filter fun c => c.toNat < 128
  let codes := label.map Char.toNat
  let others := ((codes.filter (128 ≤ ·)).eraseDups).mergeSort
  let start : State :=
    ⟨128, 0, 72, basic.length, if basic.isEmpty then [] else basic ++ ['-']⟩
  (others.foldl (fun s c => writeChar basic.length c s codes) start).out

def digitValue? (c : Char) : Option Nat :=
  if c.isDigit then some (c.toNat - '0'.toNat + 26)
  else if c.isLower then some (c.toNat - 'a'.toNat)
  else none

def greatestWord : Nat := UInt32.size - 1

/-- Adds a number in digits of growing weight to `n`; it ends at the first digit that is below its
threshold. Numbers of more than 32 bits are refused. -/
def readNumber? (bias : Nat) : Nat → Nat → Nat → List Char → Option (Nat × List Char)
  | _, _, _, [] => none
  | place, weight, n, c :: rest => do
    let d ← digitValue? c
    let n := n + d * weight
    let t := threshold bias place
    if greatestWord < n then none
    else if d < t then some (n, rest)
    else if greatestWord < weight * (36 - t) then none
    else readNumber? bias (place + 1) (weight * (36 - t)) n rest

def charOf? (n : Nat) : Option Char := if n.isValidChar then some (Char.ofNat n) else none

def insertFrom (next position bias : Nat) (label : List Char) : Nat → List Char → Option (List Char)
  | 0, _ => some label
  | fuel + 1, digits =>
    if digits.isEmpty then some label
    else do
      let (reached, rest) ← readNumber? bias 1 1 position digits
      let count := label.length + 1
      let code := next + reached / count
      let place := reached % count
      let c ← charOf? code
      insertFrom code (place + 1) (adapt (reached - position) count (position = 0))
        (label.take place ++ c :: label.drop place) fuel rest

def decode? (cs : List Char) : Option (List Char) :=
  let (digits, basic) := match Text.cutAt '-' cs.reverse with
    | some (digits, c :: basic) => (digits.reverse, (c :: basic).reverse)
    | _ => (cs, [])
  insertFrom 128 0 72 basic digits.length digits

end TableQuery.Url.Punycode
