import TableQuery.Text.CodePoints
import TableQuery.Text.Composition
import TableQuery.Text.Flow
import TableQuery.Text.Joining
import TableQuery.Text.Marks
import TableQuery.Url.DomainTable
import TableQuery.Url.Punycode

namespace TableQuery.Url

def keptSpans : List (Nat × Nat) := Text.spansOf keptText

def droppedSpans : List (Nat × Nat) := Text.spansOf droppedText

def replacedRuns : List Text.Run := (Text.words replacedText).filterMap Text.Run.read?

def expansions : List (Char × List Char) := (Text.words expandedText).filterMap Text.readExpansion?

def foldChar? (c : Char) : Option (List Char) :=
  if c.toNat < 0x80 then some [c.toLower]
  else if Text.inRanges keptSpans c then some [c]
  else if Text.inRanges droppedSpans c then some []
  else
    match Text.Run.image? replacedRuns c with
    | some d => some [d]
    | none => (expansions.find? fun e => e.1 = c).map Prod.snd

def fold? (cs : List Char) : Option (List Char) := (cs.mapM foldChar?).map List.flatten

def isFolded (c : Char) : Bool := foldChar? c = some [c]

end TableQuery.Url

namespace TableQuery.Url.Label

def isAscii (cs : List Char) : Bool := cs.all fun c => c.toNat < 0x80

def encodedMark : List Char := ['x', 'n', '-', '-']

def isEncoded (cs : List Char) : Bool := Text.startsWith cs encodedMark

def narrowJoiner : Char := '\u200c'

def wideJoiner : Char := '\u200d'

def meets (joins : Text.Joining → Bool) (cs : List Char) : Bool :=
  match (cs.map Text.Joining.ofChar).dropWhile (· = .transparent) with
  | [] => false
  | j :: _ => joins j

/-- Whether an invisible joiner has an effect between what is before it, last first, and what is
after it. -/
def mayJoin (before : List Char) (c : Char) (after : List Char) : Bool :=
  before.head?.any (fun d => Text.combiningClass d = Text.virama) ||
    (c = narrowJoiner && meets Text.Joining.joinsNext before &&
      meets Text.Joining.joinsPrevious after)

def joinersFit (before : List Char) : List Char → Bool
  | [] => true
  | c :: rest =>
    (if c = narrowJoiner || c = wideJoiner then mayJoin before c rest else true) &&
      joinersFit (c :: before) rest

def isValid (cs : List Char) : Bool :=
  cs.all isFolded && Text.composed cs = cs && !(cs.head?.any Text.isCombiningMark) &&
    joinersFit [] cs && !isEncoded cs

def greatestDecoded : Nat := 2000

/-- The label behind an encoded one, which must have had a reason to be encoded. -/
def decode? (cs : List Char) : Option (List Char) := do
  let digits := cs.drop encodedMark.length
  if digits.isEmpty || greatestDecoded < digits.length || !isAscii cs then none
  let label ← Punycode.decode? digits
  if isAscii label || !isValid label then none else some label

def read? (cs : List Char) : Option (List Char) :=
  if isEncoded cs then decode? cs
  else if isAscii cs || isValid cs then some cs
  else none

def greatestEncoded : Nat := 1000

def ascii? (label : List Char) : Option (List Char) :=
  if isAscii label then some label
  else if greatestEncoded < label.length then none
  else some (encodedMark ++ Punycode.encode label)

open Text (Flow)

def turns (label : List Char) : Bool :=
  label.any fun c => Flow.ofChar c = .leftward || Flow.ofChar c = .arabicNumber

def flows (label : List Char) : List Flow :=
  ((label.map Flow.ofChar).reverse.dropWhile (· = .mark)).reverse

def readsRightward (fs : List Flow) : Bool :=
  fs.all (fun f => f ≠ .leftward && f ≠ .arabicNumber) &&
    fs.getLast?.any fun f => f = .rightward || f = .europeanNumber

def readsLeftward (fs : List Flow) : Bool :=
  fs.all (· ≠ .rightward) && !(fs.contains .europeanNumber && fs.contains .arabicNumber) &&
    fs.getLast?.any fun f => f = .leftward || f = .europeanNumber || f = .arabicNumber

/-- Whether a label keeps its order beside labels of either direction. -/
def isSteady (label : List Char) : Bool :=
  match (label.map Flow.ofChar).head? with
  | none => true
  | some .rightward => readsRightward (flows label)
  | some .leftward => readsLeftward (flows label)
  | some _ => false

end TableQuery.Url.Label
