import TableQuery.Text.Split

namespace TableQuery.Text

def inSpan (span : Nat × Nat) (c : Char) : Bool := span.1 ≤ c.toNat && c.toNat ≤ span.2

def inRanges (ranges : List (Nat × Nat)) (c : Char) : Bool := ranges.any fun r => inSpan r c

def hexValue (c : Char) : Nat :=
  if c.isDigit then c.toNat - '0'.toNat else c.toNat - 'A'.toNat + 10

def hexNumber (cs : List Char) : Nat := cs.foldl (fun n c => n * 16 + hexValue c) 0

def isWordEnd (c : Char) : Bool := c = ' ' || c = '\n'

def wordsFrom : List Char → List Char × List (List Char)
  | [] => ([], [])
  | c :: rest =>
    let (word, more) := wordsFrom rest
    if !isWordEnd c then (c :: word, more)
    else if word.isEmpty then ([], more)
    else ([], word :: more)

def words (text : String) : List (List Char) :=
  let (word, more) := wordsFrom text.toList
  if word.isEmpty then more else word :: more

def readSpan (word : List Char) : Nat × Nat :=
  match cutAt '-' word with
  | some (first, last) => (hexNumber first, hexNumber last)
  | none => (hexNumber word, hexNumber word)

def spansOf (text : String) : List (Nat × Nat) := (words text).map readSpan

def valuesOf (text : String) : List ((Nat × Nat) × Nat) :=
  (words text).filterMap fun word =>
    (cutAt '=' word).map fun (span, value) => (readSpan span, hexNumber value)

def readExpansion? (word : List Char) : Option (Char × List Char) :=
  (cutAt '=' word).map fun (key, values) =>
    (Char.ofNat (hexNumber key), (splitAt '.' values).map fun v => Char.ofNat (hexNumber v))

/-- A run of characters, each at the same distance from what it becomes. -/
structure Run where
  first : Nat
  last : Nat
  stride : Nat
  distance : Int
deriving DecidableEq, Repr

namespace Run

def contains (r : Run) (c : Char) : Bool :=
  inSpan (r.first, r.last) c && (c.toNat - r.first) % r.stride = 0

def apply (r : Run) (c : Char) : Char := Char.ofNat (Int.ofNat c.toNat + r.distance).toNat

def image? (runs : List Run) (c : Char) : Option Char :=
  (runs.find? fun r => r.contains c).map fun r => r.apply c

/-- Written `first-last/stride=image`, where the image is that of the first. -/
def read? (word : List Char) : Option Run :=
  (cutAt '=' word).map fun (key, image) =>
    let (span, stride) := (cutAt '/' key).getD (key, ['1'])
    let (first, last) := readSpan span
    ⟨first, last, hexNumber stride, (hexNumber image : Int) - first⟩

end Run
end TableQuery.Text
