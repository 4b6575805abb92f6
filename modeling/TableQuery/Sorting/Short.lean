namespace TableQuery.Sorting

variable {α : Type} (compare : α → α → Ordering)

/-- Places `x` in a list sorted latest first, after everything it equals. -/
def place (x : α) : List α → List α
  | [] => [x]
  | y :: ys => if compare x y = .lt then y :: place x ys else x :: y :: ys

def placeAll (sorted rest : List α) : List α :=
  (rest.foldl (fun placed x => place compare x placed) sorted.reverse).reverse

def byInsertion (xs : List α) : List α := placeAll compare [] xs

/-- Items taken from one end of two lists, and what is left of these. -/
structure Ends (α : Type) where
  taken : List α
  left : List α
  right : List α

def takeFirst : Nat → List α → List α → Ends α
  | n + 1, x :: xs, y :: ys =>
    if compare y x = .lt then
      let e := takeFirst n (x :: xs) ys
      { e with taken := y :: e.taken }
    else
      let e := takeFirst n xs (y :: ys)
      { e with taken := x :: e.taken }
  | _, xs, ys => ⟨[], xs, ys⟩

/-- Merges two lists from both ends at once. If the ends have an item in common, the items are in no
order, and there is no result. -/
def mergeEnds? (xs ys : List α) : Option (List α) :=
  let front := takeFirst compare xs.length xs ys
  -- Seen from the back, the lists change sides and the order its direction.
  let back := takeFirst (fun x y => compare y x) xs.length ys.reverse xs.reverse
  if xs.length ≤ front.left.length + back.right.length ∧
      ys.length ≤ front.right.length + back.left.length then
    some (front.taken ++ front.left.take (front.left.length + back.right.length - xs.length) ++
      front.right.take (front.right.length + back.left.length - ys.length) ++ back.taken.reverse)
  else none

def sortTwo (x y : α) : α × α := if compare y x = .lt then (y, x) else (x, y)

/-- Merges two pairs by three comparisons. Which of the items in the middle came earlier follows from
where the first and the last item came from. -/
def mergePairs (a b c d : α) : List α :=
  let first := if compare c a = .lt then c else a
  let last := if compare d b = .lt then b else d
  let earlier := if compare c a = .lt then a else if compare d b = .lt then c else b
  let later := if compare d b = .lt then d else if compare c a = .lt then b else c
  let middle := sortTwo compare earlier later
  [first, middle.1, middle.2, last]

def sortFour (w x y z : α) : List α :=
  let front := sortTwo compare w x
  let back := sortTwo compare y z
  mergePairs compare front.1 front.2 back.1 back.2

def fromFour : List α → List α
  | w :: x :: y :: z :: rest => placeAll compare (sortFour compare w x y z) rest
  | xs => byInsertion compare xs

def fromEight? : List α → Option (List α)
  | a :: b :: c :: d :: e :: f :: g :: h :: rest =>
    (mergeEnds? compare (sortFour compare a b c d) (sortFour compare e f g h)).map fun sorted =>
      placeAll compare sorted rest
  | xs => some (byInsertion compare xs)

def smallItem : Nat := 16

def sortHalf? (size n : Nat) (xs : List α) : Option (List α) :=
  if size ≤ smallItem ∧ 16 ≤ n then fromEight? compare xs
  else if 8 ≤ n then some (fromFour compare xs)
  else some (byInsertion compare xs)

def sortShort? (size : Nat) (xs : List α) : Option (List α) := do
  let half := xs.length / 2
  let front ← sortHalf? compare size xs.length (xs.take half)
  let back ← sortHalf? compare size xs.length (xs.drop half)
  mergeEnds? compare front back

end TableQuery.Sorting
