import TableQuery.Json.Numeral

namespace TableQuery.Json

/-- How a flawed value looks: it is not there at all, it is a number or a word, or it is a text. -/
inductive Form
  | missing
  | bare
  | quoted
deriving DecidableEq, Repr

/-- Why no value can be read, and what keeps a reader from getting past it who does not need the
value. -/
structure Flaw where
  form : Form
  fault : Fault
  barrier : Option Fault
deriving DecidableEq, Repr

inductive Token
  | openList
  | closeList
  | openObject
  | closeObject
  | comma
  | colon
  | scalar (j : Json)
  | text (s : String)
  | flawed (flaw : Flaw)
  | stray

namespace Token

def isSpace (c : Char) : Bool := c = ' ' || c = '\n' || c = '\t' || c = '\r'

def hexValue? (c : Char) : Option Nat :=
  if c.isDigit then some (c.toNat - '0'.toNat)
  else if 'a' ≤ c && c ≤ 'f' then some (c.toNat - 'a'.toNat + 10)
  else if 'A' ≤ c && c ≤ 'F' then some (c.toNat - 'A'.toNat + 10)
  else none

def hexEscape (cs : List Char) : Except Fault (Nat × List Char) :=
  match (cs.take 4).mapM hexValue? with
  | some [a, b, c, d] => .ok (((a * 16 + b) * 16 + c) * 16 + d, cs.drop 4)
  | _ => .error (if (String.ofList (cs.take 4)).utf8ByteSize < 4 then .endInString else .invalidEscape)

/-- The character after a unicode escape's `u`; a leading surrogate needs its other half. -/
def unicodeEscape (cs : List Char) : Except Fault (Char × List Char) := do
  let (n, rest) ← hexEscape cs
  if 0xDC00 ≤ n && n ≤ 0xDFFF then .error .loneSurrogate
  else if n < 0xD800 || 0xDBFF < n then .ok (Char.ofNat n, rest)
  else
    match rest with
    | [] => .error .endInString
    | ['\\'] => .error .endInString
    | '\\' :: 'u' :: rest =>
      let (m, rest) ← hexEscape rest
      if m < 0xDC00 || 0xDFFF < m then .error .loneSurrogate
      else .ok (Char.ofNat ((n - 0xD800) * 0x400 + (m - 0xDC00) + 0x10000), rest)
    | _ => .error .unfinishedSurrogate

def simpleEscape? (c : Char) : Option Char :=
  if c = '"' || c = '\\' || c = '/' then some c
  else if c = 'b' then some '\x08'
  else if c = 'f' then some '\x0c'
  else if c = 'n' then some '\n'
  else if c = 'r' then some '\r'
  else if c = 't' then some '\t'
  else none

def textFrom : Nat → List Char → List Char → Except Fault (String × List Char)
  | 0, _, _ => .error .endInString
  | _ + 1, _, [] => .error .endInString
  | fuel + 1, read, c :: rest =>
    if c = '"' then .ok (String.ofList read.reverse, rest)
    else if c = '\\' then
      match rest with
      | [] => .error .endInString
      | e :: rest =>
        if e = 'u' then do
          let (d, rest) ← unicodeEscape rest
          textFrom fuel (d :: read) rest
        else
          match simpleEscape? e with
          | some d => textFrom fuel (d :: read) rest
          | none => .error .invalidEscape
    else if c.toNat < 0x20 then .error .controlCharacter
    else textFrom fuel (c :: read) rest

/-- What follows the closing quote of a text that is read past; the characters that its escapes
stand for do not matter. -/
def skipText : Nat → List Char → Except Fault (List Char)
  | 0, _ => .error .endInString
  | _ + 1, [] => .error .endInString
  | fuel + 1, c :: rest =>
    if c = '"' then .ok rest
    else if c = '\\' then
      match rest with
      | [] => .error .endInString
      | e :: rest =>
        if e = 'u' then
          match hexEscape rest with
          | .ok (_, rest) => skipText fuel rest
          | .error fault => .error fault
        else if (simpleEscape? e).isSome then skipText fuel rest
        else .error .invalidEscape
    else if c.toNat < 0x20 then .error .controlCharacter
    else skipText fuel rest

def word (j : Json) : List Char → List Char → Except Fault (Json × List Char)
  | [], rest => .ok (j, rest)
  | _ :: _, [] => .error .endInValue
  | w :: ws, c :: rest => if w = c then word j ws rest else .error .wordExpected

def ofBare (read : Except Fault (Json × List Char)) (skipped : Except Fault (List Char)) :
    Token × List Char :=
  match read, skipped with
  | .ok (j, rest), _ => (.scalar j, rest)
  | .error fault, .ok rest => (.flawed ⟨.bare, fault, none⟩, rest)
  | .error fault, .error barrier => (.flawed ⟨.bare, fault, some barrier⟩, [])

def ofWord (read : Except Fault (Json × List Char)) : Token × List Char :=
  ofBare read (read.map Prod.snd)

def ofNumeral (negative : Bool) (cs : List Char) : Token × List Char :=
  ofBare (numeral negative cs) (skipNumeral cs)

def ofText (fuel : Nat) (cs : List Char) : Token × List Char :=
  match textFrom fuel [] cs, skipText fuel cs with
  | .ok (s, rest), _ => (.text s, rest)
  | .error fault, .ok rest => (.flawed ⟨.quoted, fault, none⟩, rest)
  | .error fault, .error barrier => (.flawed ⟨.quoted, fault, some barrier⟩, [])

def first (fuel : Nat) (c : Char) (rest : List Char) : Token × List Char :=
  if c = '[' then (.openList, rest)
  else if c = ']' then (.closeList, rest)
  else if c = '\x7b' then (.openObject, rest)
  else if c = '\x7d' then (.closeObject, rest)
  else if c = ',' then (.comma, rest)
  else if c = ':' then (.colon, rest)
  else if c = '"' then ofText fuel rest
  else if c = 'n' then ofWord (word .null ['u', 'l', 'l'] rest)
  else if c = 't' then ofWord (word (.bool true) ['r', 'u', 'e'] rest)
  else if c = 'f' then ofWord (word (.bool false) ['a', 'l', 's', 'e'] rest)
  else if c = '-' then ofNumeral true rest
  else if c.isDigit then ofNumeral false (c :: rest)
  else (.stray, rest)

def scanFrom : Nat → List Char → List Token
  | 0, _ => []
  | _ + 1, [] => []
  | fuel + 1, c :: rest =>
    if isSpace c then scanFrom fuel rest
    else
      let (token, rest) := first (fuel + 1) c rest
      token :: scanFrom fuel rest

def scan (text : String) : List Token :=
  let cs := text.toList
  scanFrom (cs.length + 1) cs

end Token
end TableQuery.Json
