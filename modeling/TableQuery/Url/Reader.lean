import TableQuery.Url.Basic

namespace TableQuery.Url

inductive SchemeKind
  | file
  | special
  | general
deriving DecidableEq, Repr

namespace SchemeKind

def ofScheme (scheme : String) : SchemeKind :=
  if ["http", "https", "ws", "wss", "ftp"].contains scheme then .special
  else if scheme = "file" then .file
  else .general

def readsBackslash : SchemeKind → Bool
  | .general => false
  | _ => true

end SchemeKind

def defaultPort (scheme : String) : Option Nat :=
  match scheme with
  | "http" => some 80
  | "ws" => some 80
  | "https" => some 443
  | "wss" => some 443
  | "ftp" => some 21
  | _ => none

def isSlash (kind : SchemeKind) (c : Char) : Bool := c = '/' || (kind.readsBackslash && c = '\\')

def endsAuthority (kind : SchemeKind) (c : Char) : Bool := isSlash kind c || c = '?' || c = '#'

def isMargin (c : Char) : Bool := c ≤ ' '

def trimmed (text : List Char) : List Char :=
  ((text.dropWhile isMargin).reverse.dropWhile isMargin).reverse

def isSchemeChar (c : Char) : Bool :=
  c.isAlphanum || c = '+' || c = '-' || c = '.'

def readScheme (cs : List Char) : Option (String × List Char) :=
  let name := cs.takeWhile isSchemeChar
  match name.head?, cs.dropWhile isSchemeChar with
  | some c, ':' :: rest =>
    if c.isAlpha then some (String.ofList (name.map Char.toLower), rest) else none
  | _, _ => none

def cutAtLast (mark : Char) (cs : List Char) : Option (List Char × List Char) :=
  (Text.cutAt mark cs.reverse).map fun (tail, head) => (head.reverse, tail.reverse)

/-- An empty password counts as none. -/
def readCredentials (cs : List Char) : Credentials :=
  match Text.cutAt ':' cs with
  | none => ⟨encode .userinfo cs, none⟩
  | some (name, []) => ⟨encode .userinfo name, none⟩
  | some (name, word) => ⟨encode .userinfo name, some (encode .userinfo word)⟩

/-- The host ends before a colon outside square brackets. -/
def cutHost : Bool → List Char → List Char × List Char
  | _, [] => ([], [])
  | bracketed, c :: rest =>
    if c = ':' && !bracketed then ([], c :: rest)
    else
      let inside := if c = '[' then true else if c = ']' then false else bracketed
      let (host, after) := cutHost inside rest
      (c :: host, after)

def readPort (scheme : String) (cs : List Char) : Except Fault (Option Nat × List Char) :=
  let digits := cs.takeWhile Char.isDigit
  let rest := cs.dropWhile Char.isDigit
  let number := digits.foldl (fun n c => min 65536 (n * 10 + (c.toNat - 48))) 0
  let ends := match rest with
    | [] => true
    | c :: _ => ['/', '\\', '?', '#'].contains c
  if 65535 < number || !ends then .error .badPort
  else if digits.isEmpty || some number = defaultPort scheme then .ok (none, rest)
  else .ok (some number, rest)

def readHostAndPort (scheme : String) (kind : SchemeKind) (cs after : List Char) :
    Except Fault (Option Host × Option Nat × List Char) := do
  let (hostChars, rest) := cutHost false cs
  let host ← if kind = .general then Host.readGeneral hostChars else Host.readSpecial hostChars
  match rest with
  | ':' :: digits =>
    if host.isEmpty then .error .emptyHost
    let (port, after) ← readPort scheme (digits ++ after)
    .ok (some host, port, after)
  | _ => .ok (if host.isEmpty then none else some host, none, after)

def readAuthority (scheme : String) (kind : SchemeKind) (cs : List Char) :
    Except Fault (Authority × List Char) := do
  let span := cs.takeWhile fun c => !endsAuthority kind c
  let after := cs.dropWhile fun c => !endsAuthority kind c
  let (credentials, hostChars) ←
    match cutAtLast '@' span with
    | none => pure (⟨"", none⟩, span)
    | some ([], hostChars) =>
      if hostChars.isEmpty && !after.isEmpty then .error .emptyHost
      else pure (⟨"", none⟩, hostChars)
    | some (userinfo, hostChars) => pure (readCredentials userinfo, hostChars)
  let (host, port, rest) ← readHostAndPort scheme kind hostChars after
  if host.isNone && credentials ≠ ⟨"", none⟩ then .error .emptyHost
  .ok (⟨credentials, host, port⟩, rest)

def endsPath (c : Char) : Bool := c = '?' || c = '#'

/-- The path after an authority. Only a general scheme may go without one. -/
def readPath (kind : SchemeKind) (cs : List Char) : Path :=
  let body := match cs with
    | [] => []
    | c :: rest => if isSlash kind c then rest else c :: rest
  if cs.isEmpty && kind = .general then .segments []
  else .segments (Walk.along false ⟨[], false⟩ (splitSegments kind.readsBackslash body)).path

def readEnding (kind : SchemeKind) (cs : List Char) : Option String × Option String :=
  let set : EncodeSet := if kind = .general then .query else .specialQuery
  let fragment (cs : List Char) : Option String :=
    match cs with
    | '#' :: rest => some (encode .fragment rest)
    | _ => none
  match cs with
  | '?' :: rest =>
    (some (encode set (rest.takeWhile (· ≠ '#'))), fragment (rest.dropWhile (· ≠ '#')))
  | _ => (none, fragment cs)

def build (scheme : String) (kind : SchemeKind) (authority : Option Authority)
    (pathOf : List Char → Path) (cs : List Char) : Url :=
  let (query, fragment) := readEnding kind (cs.dropWhile fun c => !endsPath c)
  ⟨scheme, authority, pathOf (cs.takeWhile fun c => !endsPath c), query, fragment⟩

def afterSlashes (scheme : String) (kind : SchemeKind) (cs : List Char) : Except Fault Url := do
  let (authority, rest) ← readAuthority scheme kind cs
  .ok (build scheme kind (some authority) (readPath kind) rest)

def dropSlash? (cs : List Char) : Option (List Char) :=
  match next? cs with
  | some (c, rest) => if isSlash .file c then some rest else none
  | none => none

/-- A file at a host. A drive letter at the root takes the place of the host. -/
def fileAt (host : Option Host) (body : List Char) : Url :=
  let pathChars := body.takeWhile fun c => !endsPath c
  let w := Walk.along true ⟨[], false⟩ (splitSegments true pathChars)
  let (query, fragment) := readEnding .file (withoutBreaks (body.dropWhile fun c => !endsPath c))
  let authority : Authority := ⟨⟨"", none⟩, if w.onDrive then none else host, none⟩
  ⟨"file", some authority, .segments (trimFilePath w.path), query, fragment⟩

/-- A file after `//`. The local host and a drive letter count as no host; then a slash that follows
belongs to the path. -/
def readFileAtHost (cs : List Char) : Except Fault Url := do
  let name := withoutBreaks (cs.takeWhile fun c => !endsAuthority .file c)
  let rest := cs.dropWhile fun c => !endsAuthority .file c
  if Segment.isDriveChars name then .ok (fileAt none cs)
  else if name.isEmpty then .ok (fileAt none rest)
  else
    match ← Host.readSpecial name with
    | .domain "localhost" => .ok (fileAt none rest)
    | host => .ok (fileAt (some host) ((dropSlash? rest).getD rest))

def readFile (cs : List Char) : Except Fault Url :=
  match dropSlash? cs with
  | none => .ok (fileAt none cs)
  | some rest =>
    match dropSlash? rest with
    | none => .ok (fileAt none rest)
    | some rest => readFileAtHost rest

def readPlainPath (cs : List Char) : Path := .plain (encode .controls cs)

def readGeneral (scheme : String) : List Char → Except Fault Url
  | '/' :: '/' :: rest => afterSlashes scheme .general rest
  | '/' :: rest => .ok (build scheme .general none (readPath .general) ('/' :: rest))
  | rest => .ok (build scheme .general none readPlainPath rest)

def read (text : String) : Except Fault Url :=
  let cs := trimmed text.toList
  match readScheme (withoutBreaks cs) with
  | none => .error .noScheme
  | some (scheme, rest) =>
    match SchemeKind.ofScheme scheme with
    | .file => readFile ((cs.dropWhile (· ≠ ':')).drop 1)
    | .special => afterSlashes scheme .special (rest.dropWhile (isSlash .special))
    | .general => readGeneral scheme rest

def badUrlText : String := "[invalid-url]"

def maskText (text : String) : String :=
  match read text with
  | .ok u => u.mask.text
  | .error _ => badUrlText

end TableQuery.Url
