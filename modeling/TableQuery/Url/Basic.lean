import TableQuery.Url.Host
import TableQuery.Url.Path

namespace TableQuery

namespace Url

structure Credentials where
  username : String
  password : Option String
deriving DecidableEq, Repr

structure Authority where
  credentials : Credentials
  host : Option Host
  port : Option Nat
deriving DecidableEq, Repr

/-- A path without a leading slash has no segments. -/
inductive Path
  | plain (text : String)
  | segments (list : List String)
deriving DecidableEq, Repr

end Url

structure Url where
  scheme : String
  authority : Option Url.Authority
  path : Url.Path
  query : Option String
  fragment : Option String
deriving DecidableEq, Repr

namespace Url

def Credentials.text (c : Credentials) : String :=
  match c.password with
  | some password => c.username ++ ":" ++ password ++ "@"
  | none => if c.username.isEmpty then "" else c.username ++ "@"

def Authority.text (a : Authority) : String :=
  "//" ++ a.credentials.text ++ ((a.host.map Host.text).getD "") ++
    ((a.port.map fun p => ":" ++ Nat.repr p).getD "")

def Path.text : Path → String
  | .plain text => text
  | .segments list => String.join (list.map fun s => "/" ++ s)

/-- Keeps a path that begins with two slashes from being read as an authority. -/
def pathGuard (u : Url) : String :=
  match u.authority, u.path with
  | none, .segments ("" :: _ :: _) => "/."
  | _, _ => ""

def text (u : Url) : String :=
  u.scheme ++ ":" ++ ((u.authority.map Authority.text).getD "") ++ u.pathGuard ++ u.path.text ++
    ((u.query.map fun q => "?" ++ q).getD "") ++ ((u.fragment.map fun f => "#" ++ f).getD "")

def host? (u : Url) : Option Host := u.authority.bind Authority.host

def masked : String := "***"

def Authority.mask (a : Authority) : Authority :=
  { a with credentials := { a.credentials with password := a.credentials.password.map fun _ => masked } }

def mask (u : Url) : Url := { u with authority := u.authority.map Authority.mask }

end Url
end TableQuery
