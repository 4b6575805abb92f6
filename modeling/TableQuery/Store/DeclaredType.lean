import TableQuery.Store.Naming
import TableQuery.Store.Value
import TableQuery.Text.Split

namespace TableQuery.Store

structure DeclaredType where
  name : String
  affinity : Affinity
deriving DecidableEq, Repr

def Affinity.ofName (type : String) : Affinity :=
  let has (part : String) : Bool := Text.containsChars part.toList (upper type)
  if has "INT" then .integer
  else if has "CHAR" || has "CLOB" || has "TEXT" then .text
  else if has "BLOB" then .blob
  else if has "REAL" || has "FLOA" || has "DOUB" then .real
  else .numeric

namespace DeclaredType

def int : DeclaredType := ⟨"INT", .integer⟩
def integer : DeclaredType := ⟨"INTEGER", .integer⟩
def real : DeclaredType := ⟨"REAL", .real⟩
def text : DeclaredType := ⟨"TEXT", .text⟩

def standard : List DeclaredType := [⟨"ANY", .numeric⟩, ⟨"BLOB", .blob⟩, int, integer, real, text]

def isSpace (c : Char) : Bool := c = ' ' || c = '\t' || c = '\n' || c = '\x0c' || c = '\r'

def trimRight (cs : List Char) : List Char := (cs.reverse.dropWhile isSpace).reverse

def isQuote (c : Char) : Bool := c = '"' || c = '\x27' || c = '\x60' || c = '['

def dropEnd? (ending : String) (cs : List Char) : Option (List Char) :=
  let start := cs.length - ending.length
  if (cs.drop start).map Char.toUpper = ending.toList then some (trimRight (cs.take start)) else none

/-- The words `GENERATED ALWAYS` at the end belong to no type. -/
def dropGenerated (cs : List Char) : List Char :=
  match dropEnd? "ALWAYS" cs with
  | none => cs
  | some rest =>
    if cs.length < "GENERATED ALWAYS".length then cs
    else (dropEnd? "GENERATED" rest).getD rest

def dropQuotes (cs : List Char) : List Char :=
  match cs with
  | c :: d :: rest =>
    let inside := (d :: rest).dropLast
    if isQuote c && !inside.isEmpty && !inside.any isQuote then inside else cs
  | _ => cs

def upToQuote (mark : Char) : List Char → List Char
  | [] => []
  | c :: rest =>
    if c ≠ mark then c :: upToQuote mark rest
    else
      match rest with
      | [] => []
      | d :: after => if d = mark then mark :: upToQuote mark after else []

def unquoted (cs : List Char) : List Char :=
  match cs with
  | [] => []
  | c :: rest => if isQuote c then upToQuote (if c = '[' then ']' else c) rest else cs

/-- The type that a column's declaration gives it. Without one it prefers nothing. -/
def ofText (declaration : String) : DeclaredType :=
  let written := dropQuotes (dropGenerated (trimRight (declaration.toList.dropWhile isSpace)))
  match standard.find? fun t => written.map Char.toUpper = t.name.toList with
  | some t => t
  | none =>
    if written.isEmpty then ⟨"", .blob⟩
    else
      let name := String.ofList (unquoted written)
      ⟨name, .ofName name⟩

end DeclaredType
end TableQuery.Store
