import TableQuery.Decimal.Reading
import TableQuery.Text.Blank

namespace TableQuery

structure Config where
  databaseUrl : String
  host : String
  port : Nat
  /-- Connections in the pool of each remote source. -/
  poolSize : Nat
  logLevel : String
deriving DecidableEq, Repr

inductive ConfigError
  | badNumber (variableName text : String) (cause : Decimal.IntegerError)
  | emptyPool
deriving DecidableEq, Repr

def ConfigError.message : ConfigError → String
  | .badNumber variableName text cause =>
    "Invalid " ++ variableName ++ " '" ++ text ++ "': " ++ cause.message
  | .emptyPool => "POOL_MAX_SIZE must be at least 1"

namespace Config

open Decimal (IntegerRange)

def defaultPort : Nat := 3000

def defaultPoolSize : Nat := 16

def readNumber (environment : String → Option String) (variableName : String) (range : IntegerRange)
    (unset : Nat) : Except ConfigError Nat :=
  match environment variableName with
  | none => .ok unset
  | some text =>
    match range.read (Text.trimChars text.toList) with
    | .ok n => .ok n.toNat
    | .error cause => .error (.badNumber variableName text cause)

def ofEnvironment (environment : String → Option String) : Except ConfigError Config := do
  let port ← readNumber environment "PORT" IntegerRange.uint16 defaultPort
  let poolSize ← readNumber environment "POOL_MAX_SIZE" IntegerRange.uint64 defaultPoolSize
  if poolSize = 0 then .error .emptyPool
  .ok {
    databaseUrl := (environment "DATABASE_URL").getD "./sources.db"
    host := (environment "HOST").getD "0.0.0.0"
    port := port
    poolSize := poolSize
    logLevel := (environment "RUST_LOG").getD "info" }

def address (c : Config) : String := c.host ++ ":" ++ Nat.repr c.port

end Config
end TableQuery
