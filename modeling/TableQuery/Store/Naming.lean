namespace TableQuery.Store

def upper (s : String) : List Char := s.toList.map Char.toUpper

/-- Names are compared without regard to the case of ASCII letters. -/
def sameName (a b : String) : Bool := upper a = upper b

def quote : Char := '"'

def quoted (s : String) : String :=
  String.ofList (quote :: s.toList.flatMap (fun c => if c = quote then [c, c] else [c]) ++ [quote])

/-- A token that its own quote will end: the bytes before it and its characters, latest first. -/
structure OpenToken where
  start : Nat
  mark : Char
  chars : List Char
deriving DecidableEq, Repr

def OpenToken.push (t : OpenToken) (c : Char) : OpenToken := { t with chars := c :: t.chars }

def OpenToken.text (t : OpenToken) : String := String.ofList t.chars.reverse

/-- Where a reader of a statement stands. A quote ends a token unless another one follows. -/
inductive Place
  | outside
  | inside (token : OpenToken)
  | atQuote (token : OpenToken)
deriving DecidableEq, Repr

namespace Place

def enter (start : Nat) (c : Char) : Place :=
  if c = quote || c = '\x27' then .inside ⟨start, c, [c]⟩ else .outside

def next (start : Nat) (c : Char) : Place → Place
  | .outside => enter start c
  | .inside t => if c = t.mark then .atQuote (t.push c) else .inside (t.push c)
  | .atQuote t => if c = t.mark then .inside (t.push c) else enter start c

def openToken? : Place → Option OpenToken
  | .inside t => some t
  | _ => none

end Place

def brokenFrom (start : Nat) (place : Place) : List Char → Option OpenToken
  | [] => none
  | c :: rest =>
    if c = '\x00' then place.openToken?
    else brokenFrom (start + c.utf8Size) (place.next start c) rest

def brokenToken? (sql : String) : Option OpenToken := brokenFrom 0 .outside sql.toList

def reportAt (start : Nat) (message sql : String) : String :=
  message ++ " in " ++ sql ++ " at offset " ++ Nat.repr start

def OpenToken.report (sql : String) (t : OpenToken) : String :=
  reportAt t.start ("unrecognized token: \"" ++ t.text ++ "\"") sql

end TableQuery.Store
