import TableQuery.Calendar.Instant
import TableQuery.Json.Record
import TableQuery.Query.Decoding
import TableQuery.Sql.Dialect

namespace TableQuery

inductive SourceKind
  | csv
  | sqlite
  | postgres
  | mysql
deriving DecidableEq, Repr

namespace SourceKind

def name : SourceKind → String
  | .csv => "csv"
  | .sqlite => "sqlite"
  | .postgres => "postgres"
  | .mysql => "mysql"

def all : List SourceKind := [.csv, .sqlite, .postgres, .mysql]

def ofName (s : String) : Except Failure SourceKind :=
  let lower := Text.lowercase s
  if lower = "csv" then .ok .csv
  else if lower = "sqlite" || lower = "sqlite3" then .ok .sqlite
  else if lower = "postgres" || lower = "postgresql" then .ok .postgres
  else if lower = "mysql" || lower = "mariadb" then .ok .mysql
  else
    .error ⟨.configuration,
      "Unsupported source type: " ++ s ++ ". Supported types: csv, sqlite, postgres, mysql"⟩

/-- CSV files are loaded into SQLite tables. -/
def dialect : SourceKind → Dialect
  | .csv | .sqlite => .sqlite
  | .postgres => .postgres
  | .mysql => .mysql

end SourceKind

/-- The location is a path for files and a URL for servers. -/
structure SourceDefinition where
  id : String
  name : String
  kind : SourceKind
  location : String
  createdAt : Calendar.Instant
deriving DecidableEq, Repr

open Json

def SourceKind.decoder : Decoder SourceKind := .choice (variants SourceKind.name SourceKind.all)

def Calendar.Instant.decoder : Decoder Calendar.Instant :=
  (Decoder.stringOf "an RFC 3339 formatted date and time string").refine fun s =>
    (Calendar.Instant.readRelaxed s.toList).mapError fun e => .other e.message

namespace SourceDefinition

def decoder : Decoder SourceDefinition :=
  Record.decoder "SourceDefinition" <|
    SourceDefinition.mk <$> .required "id" .string <*> .required "name" .string
      <*> .required "sourceType" SourceKind.decoder <*> .required "location" .string
      <*> .required "createdAt" Calendar.Instant.decoder

def encode (d : SourceDefinition) : Json :=
  .obj [("id", .str d.id), ("name", .str d.name), ("sourceType", .str d.kind.name),
    ("location", .str d.location), ("createdAt", .str d.createdAt.text)]

end SourceDefinition
end TableQuery
