import TableQuery.Text.Split
import TableQuery.Url.Encoding

namespace TableQuery.Url

def joinChars (mark : Char) (parts : List String) : String := String.intercalate mark.toString parts

namespace IPv4

def digitsIn (base : Nat) (cs : List Char) : Option Nat :=
  cs.foldlM (fun n c => (hexValue? c).bind fun d => if d < base then some (n * base + d) else none) 0

/-- A leading `0x` marks a hexadecimal number and another leading `0` an octal one. -/
def number? : List Char → Option Nat
  | [] => none
  | '0' :: 'x' :: digits => digitsIn 16 digits
  | '0' :: 'X' :: digits => digitsIn 16 digits
  | '0' :: d :: digits => digitsIn 8 (d :: digits)
  | digits => digitsIn 10 digits

def parts (cs : List Char) : List (List Char) :=
  let pieces := Text.splitAt '.' cs
  if pieces.getLast? = some [] then pieces.dropLast else pieces

def endsInNumber (cs : List Char) : Bool :=
  match (parts cs).getLast? with
  | none => false
  | some piece => (!piece.isEmpty && piece.all Char.isDigit) || (number? piece).isSome

/-- The last number fills all bytes that the others leave. -/
def ofNumbers? (leading : List Nat) (last : Nat) : Option Nat :=
  if leading.all (· ≤ 255) && last < Nat.pow 256 (4 - leading.length) then
    some (leading.foldl (fun n b => n * 256 + b) 0 * Nat.pow 256 (4 - leading.length) + last)
  else none

def read? (cs : List Char) : Option Nat := do
  let numbers ← (parts cs).mapM number?
  let last ← numbers.getLast?
  if numbers.length ≤ 4 then ofNumbers? numbers.dropLast last else none

def bytes (address : Nat) : List Nat :=
  [address >>> 24, (address >>> 16) % 256, (address >>> 8) % 256, address % 256]

def text (address : Nat) : String := joinChars '.' ((bytes address).map Nat.repr)

end IPv4

namespace IPv6

def group? (cs : List Char) : Option Nat :=
  if 1 ≤ cs.length && cs.length ≤ 4 then IPv4.digitsIn 16 cs else none

def byte? (cs : List Char) : Option Nat :=
  match cs with
  | [] => none
  | '0' :: _ :: _ => none
  | _ =>
    if cs.length ≤ 3 && cs.all Char.isDigit then (IPv4.digitsIn 10 cs).filter (· ≤ 255) else none

def dotted? (cs : List Char) : Option (List Nat) := do
  match ← (Text.splitAt '.' cs).mapM byte? with
  | [a, b, c, d] => some [a * 256 + b, c * 256 + d]
  | _ => none

/-- Groups between colons; the last one may be a dotted address if `dotted`. -/
def groupsOf? (dotted : Bool) : List (List Char) → Option (List Nat)
  | [] => some []
  | [piece] =>
    if dotted && piece.contains '.' then dotted? piece else (group? piece).map fun n => [n]
  | piece :: rest => do
    let n ← group? piece
    let ns ← groupsOf? dotted rest
    some (n :: ns)

def groups? (dotted : Bool) (cs : List Char) : Option (List Nat) :=
  if cs.isEmpty then some [] else groupsOf? dotted (Text.splitAt ':' cs)

def cutAtGap : List Char → Option (List Char × List Char)
  | ':' :: ':' :: rest => some ([], rest)
  | c :: rest => (cutAtGap rest).map fun (head, tail) => (c :: head, tail)
  | [] => none

/-- Eight groups; `::` stands for at least one group of zero. -/
def read? (cs : List Char) : Option (List Nat) :=
  match cutAtGap cs with
  | none => (groups? true cs).filter fun groups => groups.length = 8
  | some (head, tail) => do
    let before ← groups? false head
    let after ← groups? true tail
    let missing := 8 - (before.length + after.length)
    if missing = 0 then none else some (before ++ List.replicate missing 0 ++ after)

def zeroRun (groups : List Nat) : Nat := (groups.takeWhile (· = 0)).length

def longestRun : Nat → List Nat → Nat × Nat
  | start, [] => (start, 0)
  | start, n :: rest =>
    let here := zeroRun (n :: rest)
    let later := longestRun (start + 1) rest
    if later.2 ≤ here then (start, here) else later

def hexText (n : Nat) : String := String.ofList (Nat.toDigits 16 n)

def text (groups : List Nat) : String :=
  let (start, length) := longestRun 0 groups
  if length < 2 then joinChars ':' (groups.map hexText)
  else
    joinChars ':' ((groups.take start).map hexText) ++ "::" ++
      joinChars ':' ((groups.drop (start + length)).map hexText)

end IPv6
end TableQuery.Url
