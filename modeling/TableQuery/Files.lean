import TableQuery.Store.Database
import TableQuery.Text.Split

namespace TableQuery

inductive Content
  | bytes (raw : List UInt8)
  | database (d : Store.Database)

inductive Entry
  | folder
  | file (content : Content)

/-- Entries by the names on the way to them from the root, and the folder that relative paths start
from. -/
structure Files where
  entries : List (List String × Entry)
  current : List String

inductive FileError
  | notFound
  | notFolder
  | isFolder
  | nameTooLong
  | nulInPath
deriving DecidableEq, Repr

def FileError.message : FileError → String
  | .notFound => "No such file or directory (os error 2)"
  | .notFolder => "Not a directory (os error 20)"
  | .isFolder => "Is a directory (os error 21)"
  | .nameTooLong => "File name too long (os error 36)"
  | .nulInPath => "file name contained an unexpected NUL byte"

namespace Files

def pathParts (path : String) : List String := (Text.splitAt '/' path.toList).map String.ofList

def entry? (f : Files) (names : List String) : Option Entry :=
  match f.entries.find? fun e => e.1 = names with
  | some (_, e) => some e
  | none =>
    if names.isEmpty || f.entries.any fun e => names.isPrefixOf e.1 then some .folder else none

/-- The bytes that a name and a whole path may have. -/
def nameLimit : Nat := 255
def pathLimit : Nat := 4095

def walk (f : Files) : List String → List String → Except FileError Entry
  | here, [] =>
    match f.entry? here with
    | some e => .ok e
    | none => .error .notFound
  | here, part :: rest =>
    match f.entry? here with
    | none => .error .notFound
    | some (.file _) => .error .notFolder
    | some .folder =>
      if part.isEmpty || part = "." then walk f here rest
      else if part = ".." then walk f here.dropLast rest
      else if nameLimit < part.utf8ByteSize then .error .nameTooLong
      else walk f (here ++ [part]) rest

def find (f : Files) (path : String) : Except FileError Entry :=
  if path.toList.contains '\x00' then .error .nulInPath
  else if pathLimit < path.utf8ByteSize then .error .nameTooLong
  else
    match pathParts path with
    | [""] => .error .notFound
    | "" :: parts => f.walk [] parts
    | parts => f.walk f.current parts

def stem (path : String) : String :=
  match ((pathParts path).filter fun p => !p.isEmpty && p ≠ ".").getLast? with
  | none => ""
  | some ".." => ""
  | some name =>
    match Text.cutAt '.' name.toList.reverse with
    | some (_, head) => if head.isEmpty then name else String.ofList head.reverse
    | none => name

end Files
end TableQuery
