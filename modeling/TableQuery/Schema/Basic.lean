namespace TableQuery

structure Column where
  name : String
  type : String
  nullable : Bool
deriving DecidableEq, Repr

structure Table where
  name : String
  columns : List Column
deriving DecidableEq, Repr

structure ForeignKey where
  fromTable : String
  fromColumn : String
  toTable : String
  toColumn : String
deriving DecidableEq, Repr

structure Schema where
  tables : List Table
  foreignKeys : List ForeignKey
deriving DecidableEq, Repr

namespace Table

def columnNames (t : Table) : List String := t.columns.map Column.name

def hasColumn (t : Table) (name : String) : Bool := t.columns.any fun c => c.name = name

end Table

namespace Schema

def table? (s : Schema) (name : String) : Option Table := s.tables.find? fun t => t.name = name

def tableNames (s : Schema) : List String := s.tables.map Table.name

def keysBetween (s : Schema) (a b : String) : List ForeignKey :=
  s.foreignKeys.filter fun k =>
    (k.fromTable = a && k.toTable = b) || (k.fromTable = b && k.toTable = a)

end Schema
end TableQuery
