import TableQuery.Csv.Table
import TableQuery.Remote.MySql
import TableQuery.Remote.Postgres
import TableQuery.Sources.Definition
import TableQuery.Sources.Server
import TableQuery.Store.Statement

namespace TableQuery

namespace Source

open Store (Database)

def ofDatabase (d : Database) : Source where
  dialect := .sqlite
  schema := .ok d.schema
  probe := .ok ()
  answer _ sql := d.answer sql

def notDatabase : Failure := ⟨.engine, "file is not a database"⟩

/-- A file of other content; that is noticed when it is read. -/
def ofOtherFile : Source where
  dialect := .sqlite
  schema := .error notDatabase
  probe := .ok ()
  answer _ _ := .error notDatabase

def dropAll (start : List Char) : Nat → List Char → List Char
  | 0, cs => cs
  | fuel + 1, cs =>
    match Text.dropStart? cs start with
    | some rest => dropAll start fuel rest
    | none => cs

/-- A database's path may be written as a URL. -/
def databasePath (location : String) : String :=
  let cs := location.toList
  String.ofList
    (dropAll ['/', '/'] cs.length (dropAll "sqlite:".toList cs.length cs))

def noDatabase (path : String) : Failure := ⟨.connection, "SQLite database not found: " ++ path⟩

def openDatabase (files : Files) (location : String) : Except Failure Source :=
  let path := databasePath location
  match files.find path with
  | .ok (.file (.database d)) => .ok (ofDatabase d)
  | .ok (.file (.bytes [])) => .ok (ofDatabase .empty)
  | .ok (.file (.bytes _)) => .ok ofOtherFile
  | _ => .error (noDatabase path)

def openCsv (files : Files) (path : String) : Except Failure Source :=
  match Csv.load files path with
  | .ok t => .ok (ofDatabase ⟨[t]⟩)
  | .error e => .error e.failure

def openPostgres (world : World) (location : String) : Except Failure Source :=
  match Remote.Postgres.check location with
  | .ok () => .ok (ofPostgres (world.server .postgres location))
  | .error problem => .error problem.failure

def openMySql (world : World) (location : String) : Except Failure Source :=
  match Remote.MySql.check location with
  | .ok () => .ok (ofMySql (world.server .mysql location))
  | .error problem => .error problem.failure

def openAt (world : World) (kind : SourceKind) (location : String) : Except Failure Source :=
  match kind with
  | .csv => openCsv world.files location
  | .sqlite => openDatabase world.files location
  | .postgres => openPostgres world location
  | .mysql => openMySql world location

end Source
end TableQuery
