import TableQuery.Query.Names
import TableQuery.Text.Distance
import TableQuery.Validation.Error

namespace TableQuery

/-- The base table, then the joined tables in join order. -/
structure Scope where
  base : Table
  joined : List Table

namespace Scope

def tables (s : Scope) : List Table := s.base :: s.joined

def join (s : Scope) (t : Table) : Scope := { s with joined := s.joined ++ [t] }

def table? (s : Scope) (name : String) : Option Table := s.tables.find? fun t => t.name = name

end Scope

def Table.check (t : Table) (column : String) (context : NameContext) :
    Except ValidationError Unit :=
  if t.hasColumn column then .ok ()
  else .error (.unknownColumn column t.name context (Text.nearest column t.columnNames))

def Scope.check (s : Scope) (field : String) (context : NameContext) :
    Except ValidationError Unit :=
  match FieldRef.ofField field with
  | ⟨some table, column⟩ =>
    match s.table? table with
    | some t => t.check column context
    | none =>
      .error (.unknownQualifier table field context
        (Text.nearest table (s.tables.map Table.name)))
  | ⟨none, column⟩ =>
    if s.tables.any fun t => t.hasColumn column then .ok ()
    else
      .error (.unknownColumn column s.base.name context
        (Text.nearest column (s.tables.flatMap Table.columnNames)))

end TableQuery
