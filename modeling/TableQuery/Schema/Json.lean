import TableQuery.Json.Record
import TableQuery.Schema.Basic

namespace TableQuery

open Json

def Column.decoder : Decoder Column :=
  Record.decoder "ColumnSchema" <|
    Column.mk <$> .required "name" .string <*> .required "type" .string
      <*> .defaulted "nullable" true .boolean

def Table.decoder : Decoder Table :=
  Record.decoder "TableSchema" <|
    Table.mk <$> .required "name" .string <*> .required "columns" (.list Column.decoder)

def ForeignKey.decoder : Decoder ForeignKey :=
  Record.decoder "ForeignKey" <|
    ForeignKey.mk <$> .required "fromTable" .string <*> .required "fromColumn" .string
      <*> .required "toTable" .string <*> .required "toColumn" .string

def Schema.decoder : Decoder Schema :=
  Record.decoder "DataSchema" <|
    Schema.mk <$> .required "tables" (.list Table.decoder)
      <*> .defaulted "foreignKeys" [] (.list ForeignKey.decoder)

def Column.encode (c : Column) : Json :=
  .obj [("name", .str c.name), ("type", .str c.type), ("nullable", .bool c.nullable)]

def Table.encode (t : Table) : Json :=
  .obj [("name", .str t.name), ("columns", .arr (t.columns.map Column.encode))]

def ForeignKey.encode (k : ForeignKey) : Json :=
  .obj [("fromTable", .str k.fromTable), ("fromColumn", .str k.fromColumn),
    ("toTable", .str k.toTable), ("toColumn", .str k.toColumn)]

def Schema.encode (s : Schema) : Json :=
  .obj [("tables", .arr (s.tables.map Table.encode)),
    ("foreignKeys", .arr (s.foreignKeys.map ForeignKey.encode))]

end TableQuery
