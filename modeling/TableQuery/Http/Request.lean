import TableQuery.Text.Split
import TableQuery.Url.Encoding

namespace TableQuery.Http

structure Request where
  method : String
  target : String
  contentType : Option String
  body : String
deriving DecidableEq, Repr

namespace Target

def endsPath (c : Char) : Bool := c = '?' || c = '#'

def isSchemeChar (c : Char) : Bool := c.isAlphanum || c = '+' || c = '-' || c = '.' || c = '~'

def afterAuthority? (target : List Char) : Option (List Char) :=
  let scheme := target.takeWhile isSchemeChar
  (Text.dropStart? (target.drop scheme.length) "://".toList).map fun rest =>
    rest.dropWhile fun c => c ≠ '/' && !endsPath c

/-- The path of a request's target: of the target itself, or of the URL that it is. A bare authority
has none. -/
def path (target : List Char) : List Char :=
  match target with
  | '/' :: _ => target.takeWhile (!endsPath ·)
  | _ =>
    match afterAuthority? target with
    | none => []
    | some rest =>
      let path := rest.takeWhile (!endsPath ·)
      if path.isEmpty then ['/'] else path

end Target

inductive Endpoint
  | health
  | sources
  | source (id : String)
  | schema (id : String)
  | query (id : String)
  | compile (id : String)
deriving DecidableEq, Repr

namespace Endpoint

/-- The ids are still percent-encoded. One may be empty, but not at the end of a path. -/
def ofParts : List String → Option Endpoint
  | ["", "health"] => some .health
  | ["", "api", "sources"] => some .sources
  | ["", "api", "sources", id] => if id.isEmpty then none else some (.source id)
  | ["", "api", "sources", id, "schema"] => some (.schema id)
  | ["", "api", "sources", id, "query"] => some (.query id)
  | ["", "api", "sources", id, "compile"] => some (.compile id)
  | _ => none

def ofPath (path : List Char) : Option Endpoint :=
  ofParts ((Text.splitAt '/' path).map String.ofList)

end Endpoint

def decodeId (id : String) : Option String :=
  (Text.Utf8.decode (Url.decodeBytes id.toList)).toOption

end TableQuery.Http
