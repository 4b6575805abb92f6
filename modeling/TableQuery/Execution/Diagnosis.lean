import TableQuery.Failure
import TableQuery.Schema.Basic
import TableQuery.Text.Lowercase
import TableQuery.Text.Split

namespace TableQuery

namespace Diagnosis

def missesTable (message : String) : Bool :=
  Text.contains message "no such table" || Text.contains message "doesn't exist" ||
    (Text.contains message "relation" && Text.contains message "does not exist")

def missesColumn (message : String) : Bool :=
  Text.contains message "no such column" || Text.contains message "unknown column" ||
    (Text.contains message "column" && Text.contains message "does not exist")

def tableHint (schema : Schema) : String :=
  ". Available tables: " ++ ", ".intercalate schema.tableNames

def columnHint (t : Table) : String :=
  ". Available columns in " ++ t.name ++ ": " ++ ", ".intercalate t.columnNames

def hint (schema : Schema) (table message : String) : String :=
  let lower := Text.lowercase message
  if missesTable lower then tableHint schema
  else if missesColumn lower then ((schema.table? table).map columnHint).getD ""
  else ""

end Diagnosis

def Failure.withNames (schema : Schema) (table : String) (f : Failure) : Failure :=
  if f.kind = .engine then { f with message := f.message ++ Diagnosis.hint schema table f.message }
  else f

end TableQuery
