import TableQuery.Sorting.Short

namespace TableQuery.Sorting

variable {α : Type} (compare : α → α → Ordering)

/-- Neighbouring items of the list that is sorted, by now in order or still as they were. -/
structure Run (α : Type) where
  items : List α
  sorted : Bool

def shortLength : Nat := 32

def descends : List α → Bool
  | x :: y :: _ => compare y x = .lt
  | _ => false

def following (descending : Bool) (x : α) : List α → Nat
  | [] => 0
  | y :: ys =>
    if decide (compare y x = .lt) = descending then following descending y ys + 1 else 0

def naturalLength : List α → Nat
  | [] => 0
  | x :: rest => following compare (descends compare (x :: rest)) x rest + 1

def goodLength (n : Nat) : Nat :=
  if n ≤ 64 * 64 then min (n - n / 2) 64
  else
    let shift := (1 + n.log2) / 2
    (1 <<< shift + n >>> shift) / 2

/-- The items of the next run. A natural run shorter than `good` is passed over. -/
def runLength (good : Nat) (eager : Bool) (xs : List α) : Nat :=
  if good ≤ naturalLength compare xs then naturalLength compare xs
  else if eager then shortLength else good

def makeRun? (size good : Nat) (eager : Bool) (xs : List α) : Option (Run α) :=
  if good ≤ naturalLength compare xs then
    some ⟨if descends compare xs then (xs.take (naturalLength compare xs)).reverse
      else xs.take (naturalLength compare xs), true⟩
  else if eager then (sortShort? compare size (xs.take shortLength)).map fun items => ⟨items, true⟩
  else some ⟨xs.take good, false⟩

def runs? (size good : Nat) (eager : Bool) : List α → Option (List (Run α))
  | [] => some []
  | x :: rest => do
    let run ← makeRun? compare size good eager (x :: rest)
    let others ← runs? size good eager (rest.drop (runLength compare good eager (x :: rest) - 1))
    pure (run :: others)
termination_by xs => xs.length
decreasing_by simp only [List.length_drop, List.length_cons]; omega

/-- How deep the node between two runs lies in the tree of merges of `n` items, by the places where
the runs begin and end. -/
def mergeDepth (n left mid right : Nat) : Nat :=
  let scale := (1 <<< 62 + n - 1) / n
  match (scale * (left + mid)) ^^^ (scale * (mid + right)) with
  | 0 => 64
  | difference => 63 - difference.log2

def mergeRuns (xs ys : List α) : List α :=
  if xs.length ≤ ys.length then xs.merge ys fun x y => compare y x ≠ .lt
  else (ys.reverse.merge xs.reverse fun y x => compare y x ≠ .lt).reverse

section Runs

variable (room : Nat) (sortRun? : List α → Option (List α))

def inOrder? (run : Run α) : Option (List α) :=
  if run.sorted then some run.items else sortRun? run.items

/-- Two unsorted runs stay unsorted as long as there is room to sort them together. -/
def joinRuns? (left right : Run α) : Option (Run α) :=
  if left.items.length + right.items.length ≤ room ∧ !left.sorted ∧ !right.sorted then
    some ⟨left.items ++ right.items, false⟩
  else do
    let xs ← inOrder? sortRun? left
    let ys ← inOrder? sortRun? right
    pure ⟨mergeRuns compare xs ys, true⟩

/-- Joins a run with those before it whose nodes do not lie higher than `depth`. -/
def collapse? (depth : Nat) (run : Run α) : List (Run α × Nat) → Option (Run α × List (Run α × Nat))
  | [] => some (run, [])
  | (left, leftDepth) :: before =>
    if depth ≤ leftDepth then do
      collapse? depth (← joinRuns? compare room sortRun? left run) before
    else some (run, (left, leftDepth) :: before)

def joinAll? (n scanned : Nat) (run : Run α) (before : List (Run α × Nat)) :
    List (Run α) → Option (Run α)
  | [] => (collapse? compare room sortRun? 0 run before).map Prod.fst
  | next :: rest => do
    let depth := mergeDepth n (scanned - run.items.length) scanned (scanned + next.items.length)
    let (joined, before) ← collapse? compare room sortRun? depth run before
    joinAll? n (scanned + next.items.length) next ((joined, depth) :: before) rest

def byRuns? (size : Nat) (eager : Bool) (xs : List α) : Option (List α) := do
  match ← runs? compare size (goodLength xs.length) eager xs with
  | [] => some []
  | run :: rest =>
    let joined ← joinAll? compare room sortRun? xs.length run.items.length run [] rest
    inOrder? sortRun? joined

end Runs

section Pivot

variable (xs : List α)

def isLessAt (i j : Nat) : Bool :=
  match xs[i]?, xs[j]? with
  | some x, some y => compare x y = .lt
  | _, _ => false

def median (a b c : Nat) : Nat :=
  let beforeB := isLessAt compare xs a b
  if beforeB = isLessAt compare xs a c then
    if isLessAt compare xs b c = beforeB then b else c
  else a

def wideMedian (a b c n : Nat) : Nat :=
  if n * 8 < 64 then median compare xs a b c
  else
    let m := n / 8
    median compare xs (wideMedian a (a + m * 4) (a + m * 7) m)
      (wideMedian b (b + m * 4) (b + m * 7) m) (wideMedian c (c + m * 4) (c + m * 7) m)
termination_by n
decreasing_by all_goals omega

def pivotPlace : Nat :=
  let m := xs.length / 8
  wideMedian compare xs 0 (m * 4) (m * 7) m

end Pivot

def eagerly? (size : Nat) (xs : List α) : Option (List α) :=
  byRuns? compare xs.length (sortShort? compare size) size true xs

/-- Parts the items by a pivot and sorts both sides, at most `limit` times in a row. Where the pivot
is level with the one to the left of these items, or is the least of them, the items level with it
come first and are not sorted further. -/
def quicksort? (size : Nat) : Nat → Option α → List α → Option (List α)
  | limit, ancestor, xs =>
    if xs.length ≤ shortLength then sortShort? compare size xs
    else
      match limit with
      | 0 => eagerly? compare size xs
      | limit + 1 =>
        match xs.splitAt (pivotPlace compare xs) with
        | (_, []) => none
        | (before, pivot :: after) =>
          let isLess (x : α) : Bool := compare x pivot = .lt
          let isGreater (x : α) : Bool := compare pivot x = .lt
          let less := before.filter isLess ++ after.filter isLess
          if ancestor.any (fun a => compare a pivot ≠ .lt) || less.isEmpty then do
            let greater ← quicksort? size limit none (before.filter isGreater ++ after.filter isGreater)
            some (before.filter (!isGreater ·) ++ pivot :: after.filter (!isGreater ·) ++ greater)
          else do
            let notLess := before.filter (!isLess ·) ++ pivot :: after.filter (!isLess ·)
            let right ← quicksort? size limit (some pivot) notLess
            let left ← quicksort? size limit ancestor less
            some (left ++ right)

def insertionLength : Nat := 20

def roomBytes : Nat := 8000000

/-- Sorts items of `size` bytes. Items whose order is no order may have no result. -/
def sort? (size : Nat) (xs : List α) : Option (List α) :=
  if xs.length ≤ insertionLength then some (byInsertion compare xs)
  else
    let room := max (xs.length - xs.length / 2) (min xs.length (roomBytes / size))
    let sortRun? (ys : List α) := quicksort? compare size (2 * (ys.length ||| 1).log2) none ys
    byRuns? compare room sortRun? size (xs.length ≤ 2 * shortLength) xs

end TableQuery.Sorting
