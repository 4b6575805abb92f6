import TableQuery.Failure
import TableQuery.Rows.Row
import TableQuery.Schema.Basic
import TableQuery.Sql.Dialect

namespace TableQuery

/-- The answer to a statement may depend on how many statements came before it. -/
structure Source where
  dialect : Dialect
  schema : Except Failure Schema
  probe : Except Failure Unit
  answer : Nat → String → Except Failure (List Row)

/-- A conversation; its state is the list of the statements sent so far. -/
abbrev Session := ExceptT Failure (StateM (List String))

namespace Source

def send (s : Source) (sql : String) : Session (List Row) := fun sent =>
  (s.answer sent.length sql, sent ++ [sql])

def failureColumn : String := "error"

/-- A single row with nothing but a text under `error` reports a failure. -/
def reportedFailure? : List Row → Option String
  | [⟨[(column, .str message)]⟩] => if column = failureColumn then some message else none
  | _ => none

def fetch (s : Source) (sql : String) : Session (List Row) := do
  let rows ← s.send sql
  match reportedFailure? rows with
  | some message => throw ⟨.engine, message⟩
  | none => pure rows

def ofAnswers (dialect : Dialect) (schema : Except Failure Schema)
    (answers : List (Except Failure (List Row))) : Source where
  dialect := dialect
  schema := schema
  probe := .ok ()
  answer n _ := (answers[n]?.or answers.getLast?).getD (.ok [])

end Source
end TableQuery
