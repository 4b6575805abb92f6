import TableQuery.Text.Split

namespace TableQuery.Http

structure MediaType where
  type : List Char
  subtype : List Char
  suffix : Option (List Char)
deriving DecidableEq, Repr

namespace MediaType

def isTokenChar (c : Char) : Bool :=
  c.isAlphanum ||
    ['!', '#', '$', '%', '&', '\'', '*', '+', '-', '.', '^', '_', '\x60', '|', '~'].contains c

def isQuotedChar (c : Char) : Bool := 0x20 ≤ c.toNat && c ≠ '\x7f'

/-- Where a reader of parameters stands. A quote right after the opening one does not close it. -/
inductive Place
  | beforeName
  | inName
  | beforeValue
  | inValue
  | atQuote
  | inQuotes
  | afterQuotes
deriving DecidableEq, Repr

namespace Place

def next? (p : Place) (c : Char) : Option Place :=
  match p with
  | .beforeName =>
    if c = ' ' then some .beforeName else if isTokenChar c then some .inName else none
  | .inName => if c = '=' then some .beforeValue else if isTokenChar c then some .inName else none
  | .beforeValue =>
    if c = '"' then some .atQuote else if isTokenChar c then some .inValue else none
  | .inValue => if c = ';' then some .beforeName else if isTokenChar c then some .inValue else none
  | .atQuote => if isQuotedChar c then some .inQuotes else none
  | .inQuotes =>
    if c = '"' then some .afterQuotes else if isQuotedChar c then some .inQuotes else none
  | .afterQuotes => if c = ';' then some .beforeName else if c = ' ' then some .afterQuotes else none

def isEnd (p : Place) : Bool := p ≠ .inName && p ≠ .atQuote && p ≠ .inQuotes

end Place

def areParameters (cs : List Char) : Bool := (cs.foldlM Place.next? .beforeName).any Place.isEnd

/-- A subtype ends at its last plus sign, unless that is its first character. -/
def cutSuffix (cs : List Char) : List Char × Option (List Char) :=
  match Text.cutAt '+' cs.reverse with
  | some (suffix, c :: name) => ((c :: name).reverse, some suffix.reverse)
  | _ => (cs, none)

def isHeaderChar (c : Char) : Bool := c = '\t' || (0x20 ≤ c.toNat && c.toNat < 0x7F)

def read? (header : String) : Option MediaType := do
  if !header.toList.all isHeaderChar then none
  let (type, rest) ← Text.cutAt '/' header.toList
  let (subtype, parameters) := (Text.cutAt ';' rest).getD (rest, [])
  if type.isEmpty || !type.all isTokenChar || !subtype.all isTokenChar then none
  if !areParameters parameters then none
  let (name, suffix) := cutSuffix (subtype.map Char.toLower)
  some ⟨type.map Char.toLower, name, suffix⟩

def isJson (m : MediaType) : Bool :=
  m.type = "application".toList &&
    (m.subtype = "json".toList || m.suffix = some "json".toList)

end MediaType
end TableQuery.Http
