import TableQuery.Text.CanonicalPairs
import TableQuery.Text.CombiningClass

namespace TableQuery.Text

/-- Syllables of Hangul are counted off from their letters: a first one, a vowel, perhaps a last. -/
structure Syllable where
  lead : Nat
  vowel : Nat
  tail : Nat
deriving DecidableEq, Repr

namespace Syllable

def leads : Nat := 19

def vowels : Nat := 21

/-- One of them is no tail at all. -/
def tails : Nat := 28

def firstLead : Nat := 0x1100

def firstVowel : Nat := 0x1161

def beforeTails : Nat := 0x11A7

def firstSyllable : Nat := 0xAC00

def ofChar? (c : Char) : Option Syllable :=
  let n := c.toNat - firstSyllable
  if firstSyllable ≤ c.toNat && n < leads * vowels * tails then
    some ⟨n / (vowels * tails), n / tails % vowels, n % tails⟩
  else none

def toChar (s : Syllable) : Char :=
  Char.ofNat (firstSyllable + (s.lead * vowels + s.vowel) * tails + s.tail)

def letters (s : Syllable) : List Char :=
  [Char.ofNat (firstLead + s.lead), Char.ofNat (firstVowel + s.vowel)] ++
    (if s.tail = 0 then [] else [Char.ofNat (beforeTails + s.tail)])

def indexIn? (first count : Nat) (c : Char) : Option Nat :=
  if first ≤ c.toNat && c.toNat < first + count then some (c.toNat - first) else none

def withTail? (c d : Char) : Option Char := do
  let s ← ofChar? c
  let tail ← indexIn? beforeTails tails d
  if s.tail = 0 && tail ≠ 0 then some { s with tail := tail }.toChar else none

def join? (c d : Char) : Option Char :=
  match indexIn? firstLead leads c, indexIn? firstVowel vowels d with
  | some lead, some vowel => some (toChar ⟨lead, vowel, 0⟩)
  | _, _ => withTail? c d

end Syllable

/-- No character holds more marks than this. -/
def markDepth : Nat := 3

def decompose : Nat → Char → List Char
  | 0, c => [c]
  | fuel + 1, c =>
    match canonicalPairs.find? fun p => p.whole = c with
    | some p => decompose fuel p.base ++ [p.mark]
    | none => ((Syllable.ofChar? c).map Syllable.letters).getD [c]

/-- Puts a character before a text, behind the marks there that stand closer to the base. -/
def placeMark (c : Char) : List Char → List Char
  | [] => [c]
  | d :: rest =>
    if 0 < combiningClass d && combiningClass d < combiningClass c then d :: placeMark c rest
    else c :: d :: rest

def orderMarks (cs : List Char) : List Char := cs.foldr placeMark []

def joinPair? (base mark : Char) : Option Char :=
  match canonicalPairs.find? fun p => p.base = base && p.mark = mark with
  | some p => some p.whole
  | none => Syllable.join? base mark

/-- Whether one of the marks in between keeps a character from its base. -/
def isBlocked (between : List Char) (c : Char) : Bool :=
  match between.getLast? with
  | none => false
  | some d => combiningClass c ≤ combiningClass d

/-- Joins a base with what follows it; `between` holds the marks that stay behind it. -/
def composeFrom (base : Char) (between : List Char) : List Char → List Char
  | [] => base :: between
  | c :: rest =>
    match if isBlocked between c then none else joinPair? base c with
    | some whole => composeFrom whole between rest
    | none =>
      if combiningClass c = 0 then base :: between ++ composeFrom c [] rest
      else composeFrom base (between ++ [c]) rest

def compose : List Char → List Char
  | [] => []
  | c :: rest => if combiningClass c = 0 then composeFrom c [] rest else c :: compose rest

def composed (cs : List Char) : List Char := compose (orderMarks (cs.flatMap (decompose markDepth)))

end TableQuery.Text
