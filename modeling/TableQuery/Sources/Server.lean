import TableQuery.Execution.Source
import TableQuery.Files

namespace TableQuery

/-- Why a server gives no result. A refusal has a text, and on some servers a report with a message
and a code. -/
inductive ServerError
  | noConnection (cause : String)
  | refused (text : String) (report : Option (String × String))

/-- A database server as it answers when it is asked. -/
structure Server where
  schema : Except ServerError Schema
  probe : Except ServerError Unit
  answer : Nat → String → Except ServerError (List Row)

def Server.unreachable (cause : String) : Server where
  schema := .error (.noConnection cause)
  probe := .error (.noConnection cause)
  answer _ _ := .error (.noConnection cause)

/-- What sources are opened from: files, and the servers at their addresses. -/
structure World where
  files : Files
  server : Dialect → String → Server

def World.ofFiles (files : Files) : World := ⟨files, fun _ _ => .unreachable "no server"⟩

namespace Source

def serverFailure (connecting : String) (kind : FailureKind)
    (refusal : String → Option (String × String) → String) : ServerError → Failure
  | .noConnection cause => ⟨.connection, connecting ++ cause⟩
  | .refused text report => ⟨kind, refusal text report⟩

def postgresConnecting : String := "Failed to get connection from pool: "

def postgresRefusal (text : String) : Option (String × String) → String
  | some (message, code) => message ++ " (SQLSTATE " ++ code ++ ")"
  | none => text

def ofPostgres (s : Server) : Source where
  dialect := .postgres
  schema := s.schema.mapError (serverFailure postgresConnecting .engine postgresRefusal)
  probe := s.probe.mapError (serverFailure postgresConnecting .connection fun text _ => text)
  answer n sql :=
    (s.answer n sql).mapError (serverFailure postgresConnecting .engine postgresRefusal)

def mySqlConnecting : String := "Failed to get MySQL connection from pool: "

def ofMySql (s : Server) : Source where
  dialect := .mysql
  schema := s.schema.mapError
    (serverFailure mySqlConnecting .engine fun text _ => "Failed to read schema: " ++ text)
  probe := s.probe.mapError (serverFailure mySqlConnecting .connection fun text _ => text)
  answer n sql := (s.answer n sql).mapError (serverFailure mySqlConnecting .engine fun text _ => text)

end Source
end TableQuery
