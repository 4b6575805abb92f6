import TableQuery.Text.Utf8

namespace TableQuery.Url

def hexDigit (n : Nat) : Char := if n < 10 then Char.ofNat (48 + n) else Char.ofNat (55 + n)

def hexValue? (c : Char) : Option Nat :=
  if c.isDigit then some (c.toNat - 48)
  else if 'a' ≤ c && c ≤ 'f' then some (c.toNat - 87)
  else if 'A' ≤ c && c ≤ 'F' then some (c.toNat - 55)
  else none

def encodeByte (b : UInt8) : List Char :=
  ['%', hexDigit (b.toNat / 16), hexDigit (b.toNat % 16)]

def utf8Bytes (s : List Char) : List UInt8 := (String.ofList s).toUTF8.toList

abbrev EncodeSet := Char → Bool

def isControl (c : Char) : Bool := c.toNat < 0x20 || c.toNat = 0x7F

namespace EncodeSet

def controls : EncodeSet := fun c => isControl c || 0x7F < c.toNat

def also (set : EncodeSet) (marks : List Char) : EncodeSet := fun c => set c || marks.contains c

def fragment : EncodeSet := controls.also [' ', '"', '<', '>', '\x60']

def path : EncodeSet := fragment.also ['#', '?', '\x7b', '\x7d']

def userinfo : EncodeSet := path.also ['/', ':', ';', '=', '@', '[', '\\', ']', '^', '|']

def query : EncodeSet := controls.also [' ', '"', '#', '<', '>']

def specialQuery : EncodeSet := query.also ['\'']

end EncodeSet

def encodeChars (set : EncodeSet) (cs : List Char) : List Char :=
  cs.flatMap fun c => if set c then (utf8Bytes [c]).flatMap encodeByte else [c]

def encode (set : EncodeSet) (cs : List Char) : String := String.ofList (encodeChars set cs)

/-- The bytes of a text; a `%` without two hexadecimal digits stands for itself. -/
def decodeBytes : List Char → List UInt8
  | [] => []
  | '%' :: high :: low :: rest =>
    match hexValue? high, hexValue? low with
    | some h, some l => UInt8.ofNat (h * 16 + l) :: decodeBytes rest
    | _, _ => '%'.toUInt8 :: decodeBytes (high :: low :: rest)
  | c :: rest => utf8Bytes [c] ++ decodeBytes rest

end TableQuery.Url
