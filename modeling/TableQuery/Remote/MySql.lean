import TableQuery.Decimal.Reading
import TableQuery.Failure
import TableQuery.Text.Split
import TableQuery.Url.Encoding
import TableQuery.Url.Reader

namespace TableQuery.Remote

def decodeParameter (cs : List Char) : String :=
  Text.Utf8.decodeLossy (Url.decodeBytes (cs.map fun c => if c = '+' then ' ' else c))

def parameterOf (pair : List Char) : String × String :=
  match Text.cutAt '=' pair with
  | some (name, value) => (decodeParameter name, decodeParameter value)
  | none => (decodeParameter pair, "")

def parameters (query : String) : List (String × String) :=
  ((Text.splitAt '&' query.toList).filter fun pair => !pair.isEmpty).map parameterOf

end TableQuery.Remote

namespace TableQuery.Remote.MySql

inductive Problem
  | unreadable (cause : Url.Fault)
  | foreignScheme
  | unsupportedScheme (scheme : String)
  | noHost
  | unknownParameter (name : String)
  | badValue (name value : String)
  | emptyPool (least greatest : Nat)
deriving DecidableEq, Repr

/-- The keepalive interval is reported with its unit. -/
def reportedName (parameter : String) : String :=
  if parameter = "tcp_keepalive" then "tcp_keepalive_ms" else parameter

def Problem.message : Problem → String
  | .unreadable cause => "Invalid MySQL URL: " ++ cause.message
  | .foreignScheme => "URL must use mysql:// or mariadb:// scheme"
  | .unsupportedScheme scheme =>
    "Invalid MySQL URL: Unsupported connection URL scheme `" ++ scheme ++ "'"
  | .noHost => "Invalid MySQL URL: Invalid or incomplete connection URL"
  | .unknownParameter name => "Invalid MySQL URL: Unknown connection URL parameter `" ++ name ++ "'"
  | .badValue name value =>
    "Invalid MySQL URL: Invalid value `" ++ value ++ "' for connection URL parameter `" ++
      reportedName name ++ "'"
  | .emptyPool least greatest =>
    "Invalid MySQL URL: Invalid pool constraints: pool_min (" ++ Nat.repr least ++
      ") > pool_max (" ++ Nat.repr greatest ++ ")."

inductive ParameterKind
  | word32
  | word64
  | flag
  | text
  | compression
deriving DecidableEq, Repr

def parameterKind? (name : String) : Option ParameterKind :=
  if ["pool_min", "pool_max", "inactive_connection_ttl", "ttl_check_interval", "conn_ttl",
      "abs_conn_ttl", "abs_conn_ttl_jitter", "max_allowed_packet", "wait_timeout",
      "stmt_cache_size"].contains name then some .word64
  else if name = "tcp_keepalive" then some .word32
  else if ["enable_cleartext_plugin", "reset_connection", "tcp_nodelay", "prefer_socket",
      "secure_auth", "client_found_rows", "require_ssl", "verify_ca", "verify_identity",
      "built_in_roots"].contains name then some .flag
  else if name = "socket" then some .text
  else if name = "compression" then some .compression
  else none

open Decimal (IntegerRange)

def isWord (range : IntegerRange) (value : String) : Bool := (range.read value.toList).toOption.isSome

def isCompression (value : String) : Bool :=
  ["fast", "on", "true", "best"].contains value ||
    match value.toList with
    | [c] => c.isDigit
    | _ => false

def ParameterKind.admits (value : String) : ParameterKind → Bool
  | .word32 => isWord .uint32 value
  | .word64 => isWord .uint64 value
  | .flag => value = "true" || value = "false"
  | .text => true
  | .compression => isCompression value

def checkParameter (p : String × String) : Except Problem Unit :=
  match parameterKind? p.1 with
  | none => .error (.unknownParameter p.1)
  | some kind => if kind.admits p.2 then .ok () else .error (.badValue p.1 p.2)

def numberNamed (name : String) (unset : Nat) (ps : List (String × String)) : Nat :=
  match (ps.filter fun p => p.1 = name).getLast? with
  | none => unset
  | some p => ((IntegerRange.uint64.read p.2.toList).toOption.getD 0).toNat

def checkParameters (ps : List (String × String)) : Except Problem Unit := do
  ps.forM checkParameter
  let least := numberNamed "pool_min" 10 ps
  let greatest := numberNamed "pool_max" 100 ps
  if greatest < least then .error (.emptyPool least greatest)

/-- MariaDB speaks the same protocol under its own scheme. -/
def withMySqlScheme (location : List Char) : List Char :=
  match Text.dropStart? location "mariadb://".toList with
  | some rest => "mysql://".toList ++ rest
  | none =>
    match location with
    | [] => []
    | c :: rest => c :: withMySqlScheme rest

def readUrl (location : String) : Except Problem Url := (Url.read location).mapError .unreadable

def check (location : String) : Except Problem Unit := do
  let given ← readUrl location
  if given.scheme ≠ "mysql" && given.scheme ≠ "mariadb" then .error .foreignScheme
  let u ← readUrl (String.ofList (withMySqlScheme location.toList))
  if u.host?.isNone then .error .noHost
  if u.scheme ≠ "mysql" then .error (.unsupportedScheme u.scheme)
  checkParameters (parameters (u.query.getD ""))

def Problem.failure (p : Problem) : Failure := ⟨.configuration, p.message⟩

end TableQuery.Remote.MySql
