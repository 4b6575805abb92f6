import TableQuery.Decimal.Reading
import TableQuery.Failure
import TableQuery.Text.Blank
import TableQuery.Url.Reader

namespace TableQuery.Remote.Postgres

inductive Problem
  | unreadable (cause : Url.Fault)
  | foreignScheme
  | badSettings
  | noDatabase
  | emptyDatabase

def poolText (detail : String) : String :=
  "Failed to create connection pool: Config: configuration property " ++ detail

def Problem.failure : Problem → Failure
  | .unreadable cause => ⟨.configuration, "Invalid PostgreSQL URL: " ++ cause.message⟩
  | .foreignScheme => ⟨.configuration, "URL must use postgresql:// or postgres:// scheme"⟩
  | .badSettings => ⟨.connection, poolText "\"url\" is invalid: invalid connection string"⟩
  | .noDatabase => ⟨.connection, poolText "\"dbname\" not found"⟩
  | .emptyDatabase => ⟨.connection, poolText "\"dbname\" contains an empty string"⟩

abbrev Setting := String × String

open Decimal (IntegerRange)

def reads (range : IntegerRange) (value : String) : Bool := (range.read value.toList).toOption.isSome

def partsOf (value : String) : List String := (Text.splitAt ',' value.toList).map String.ofList

def isPort (value : String) : Bool := value.isEmpty || reads .uint16 value

def isAddress (value : String) : Bool :=
  (Url.IPv6.dotted? value.toList).isSome || (Url.IPv6.read? value.toList).isSome

def admits (name value : String) : Bool :=
  match name with
  | "user" | "password" | "dbname" | "options" | "application_name" | "host" => true
  | "sslmode" => ["disable", "prefer", "require"].contains value
  | "sslnegotiation" => ["postgres", "direct"].contains value
  | "hostaddr" => (partsOf value).all isAddress
  | "port" => (partsOf value).all isPort
  | "connect_timeout" | "tcp_user_timeout" | "keepalives_idle" | "keepalives_interval" =>
    reads .int64 value
  | "keepalives" => reads .uint64 value
  | "keepalives_retries" => reads .uint32 value
  | "target_session_attrs" => ["any", "read-write", "read-only"].contains value
  | "channel_binding" => ["disable", "prefer", "require"].contains value
  | "load_balance_hosts" => ["disable", "random"].contains value
  | _ => false

def setting? (name value : String) : Option Setting :=
  if admits name value then some (name, value) else none

def decode? (cs : List Char) : Option String := (Text.Utf8.decode (Url.decodeBytes cs)).toOption

def isHost (cs : List Char) : Bool :=
  match Url.decodeBytes cs with
  | 0x2F :: _ => true
  | _ => (decode? cs).isSome

def defaultPort : List Char := "5432".toList

def cutPort? : List Char → Option (List Char × List Char)
  | '[' :: rest =>
    match Text.cutAt ']' rest with
    | some (host, []) => some (host, defaultPort)
    | some (host, ':' :: port) => some (host, port)
    | _ => none
  | cs => some ((Text.cutAt ':' cs).getD (cs, defaultPort))

def isHostWithPort (cs : List Char) : Bool :=
  match cutPort? cs with
  | none => false
  | some (host, port) => isHost host && (decode? port).any (admits "port")

def areHosts (cs : List Char) : Bool := cs.isEmpty || (Text.splitAt ',' cs).all isHostWithPort

def areCredentials (cs : List Char) : Bool :=
  (decode? ((Text.cutAt ':' cs).map Prod.fst |>.getD cs)).isSome

def readParameter? (cs : List Char) : Option (Option Setting × List Char) := do
  let (nameChars, rest) ← Text.cutAt '=' cs
  let name ← decode? nameChars
  let (value, rest) := (Text.cutAt '&' rest).getD (rest, [])
  if name = "host" then
    if isHost value then some (none, rest) else none
  else
    some (← setting? name (← decode? value), rest)

def readParameters? : Nat → List Char → Option (List Setting)
  | 0, _ => some []
  | fuel + 1, cs =>
    if cs.isEmpty then some []
    else do
      let (setting, rest) ← readParameter? cs
      let more ← readParameters? fuel rest
      some (setting.toList ++ more)

def databaseSetting? (cs : List Char) : Option (List Setting) :=
  if cs.isEmpty then some [] else (decode? cs).map fun name => [("dbname", name)]

def readUrlSettings? (cs : List Char) : Option (List Setting) := do
  let (credentials, rest) := (Text.cutAt '@' cs).getD ([], cs)
  if !areCredentials credentials then none
  let endsHosts := fun c => c = '/' || c = '?'
  let (hosts, afterHosts) := (rest.takeWhile (!endsHosts ·), rest.dropWhile (!endsHosts ·))
  if !areHosts hosts then none
  let database ← databaseSetting? ((afterHosts.takeWhile (· ≠ '?')).drop 1)
  let parameters := (afterHosts.dropWhile (· ≠ '?')).drop 1
  some (database ++ (← readParameters? parameters.length parameters))

def readEscaped (stops : Char → Bool) : List Char → List Char × List Char
  | [] => ([], [])
  | '\\' :: d :: rest =>
    let (value, after) := readEscaped stops rest
    (d :: value, after)
  | d :: rest =>
    if d = '\\' then ([], [])
    else if stops d then ([], d :: rest)
    else
      let (value, after) := readEscaped stops rest
      (d :: value, after)

def readValue? : List Char → Option (String × List Char)
  | '\'' :: rest =>
    match readEscaped (· = '\'') rest with
    | (value, '\'' :: after) => some (String.ofList value, after)
    | _ => none
  | cs =>
    let (value, after) := readEscaped Text.isBlank cs
    if value.isEmpty then none else some (String.ofList value, after)

def readSettingList? : Nat → List Char → Option (List Setting)
  | 0, _ => some []
  | fuel + 1, cs => do
    let isNamePart := fun c => c ≠ '=' && !Text.isBlank c
    let trimmed := Text.trimLeft cs
    let name := trimmed.takeWhile isNamePart
    if name.isEmpty then some []
    else
      match Text.trimLeft (trimmed.dropWhile isNamePart) with
      | '=' :: rest => do
        let (value, after) ← readValue? (Text.trimLeft rest)
        let setting ← setting? (String.ofList name) value
        some (setting :: (← readSettingList? fuel after))
      | _ => none

def readSettings? (location : String) : Option (List Setting) :=
  let cs := location.toList
  let schemes := ["postgres://".toList, "postgresql://".toList]
  match schemes.findSome? (Text.dropStart? cs) with
  | some rest => readUrlSettings? rest
  | none => readSettingList? cs.length cs

def databaseOf (settings : List Setting) : Option String :=
  ((settings.filter fun s => s.1 = "dbname").getLast?).map Prod.snd

def check (location : String) : Except Problem Unit := do
  let u ← (Url.read location).mapError .unreadable
  if u.scheme ≠ "postgresql" && u.scheme ≠ "postgres" then .error .foreignScheme
  match readSettings? location with
  | none => .error .badSettings
  | some settings =>
    match databaseOf settings with
    | none => .error .noDatabase
    | some name => if name.isEmpty then .error .emptyDatabase else .ok ()

end TableQuery.Remote.Postgres
