import TableQuery.Execution.Diagnosis
import TableQuery.Execution.Plan
import TableQuery.Execution.Source
import TableQuery.Validation.Query

namespace TableQuery

def countOf? (rows : List Row) : Option Nat := do
  let (_, cell) ← (← rows.head?).cells.head?
  let n ← Cell.number? cell
  pure n.toUInt64.toNat

namespace Query

/-- Joins need the whole schema, and so does the report of an unknown table. -/
def check (q : Query) (schema : Schema) (table : String) : Except Failure Unit :=
  let checked :=
    match schema.table? table with
    | some t => if q.join.isEmpty then q.checkTable t else q.checkSchema schema table
    | none => q.checkSchema schema table
  checked.mapError ValidationError.failure

/-- The rows of the capped statement. Only when they fill the cap is the whole result counted. -/
def runNative (q : Query) (s : Source) (table : String) : Session Page := do
  let rows ← s.fetch (q.sql s.dialect table true)
  if rows.length < q.rowCap then pure (q.page rows rows.length)
  else
    let counted ← s.fetch (q.countSql s.dialect table)
    pure (q.page rows (max ((countOf? counted).getD rows.length) rows.length))

/-- None when a stage breaks off, and the run with it. -/
def runFallback (q : Query) (s : Source) (table : String) : Session (Option Page) := do
  let raw ← s.fetch (q.rawSql s.dialect table)
  pure ((q.interpret? raw).bind q.finalize?)

def run (q : Query) (s : Source) (table : String) : Session (Option Page) :=
  if (q.path s.dialect).isFallback then q.runFallback s table else some <$> q.runNative s table

def execute (q : Query) (s : Source) (table : String) : Session (Option Page) := do
  let schema ← s.schema
  q.check schema table
  ExceptT.adapt (Failure.withNames schema table) (q.run s table)

def explain (q : Query) (s : Source) (table : String) : Except Failure Plan := do
  let schema ← s.schema
  q.check schema table
  pure (q.plan s.dialect table)

end Query

inductive Outcome
  | success (page : Page)
  | failure (message : String)

namespace Outcome

/-- None when a run breaks off: then there is no answer at all. -/
def ofRun? : Except Failure (Option Page) → Option Outcome
  | .ok page? => page?.map .success
  | .error f => some (.failure f.text)

def encode : Outcome → Json
  | .success p =>
    .obj [("ok", .bool true), ("rows", .arr (p.rows.map Row.toJson)),
      ("columns", .ofStrings p.columns), ("totalRows", .ofNat p.totalRows),
      ("truncated", .bool p.truncated)]
  | .failure message => .obj [("ok", .bool false), ("error", .str message)]

end Outcome
end TableQuery
