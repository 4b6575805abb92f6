import TableQuery.Execution.Run
import TableQuery.Service.Registry
import TableQuery.Sources.Opening

namespace TableQuery

/-- A source with the statements that were sent to it. -/
structure Connection where
  source : Source
  sent : List String

structure Service where
  world : World
  registry : Registry
  connections : Catalog Connection

namespace Service

def start (world : World) : Service := ⟨world, .empty, .empty⟩

def notFound (id : String) : Failure := ⟨.notFound, "Source " ++ id ++ " not found"⟩

def attach (s : Service) (id : String) (source : Source) : Service :=
  { s with connections := s.connections.put id ⟨source, []⟩ }

def detach (s : Service) (id : String) : Service :=
  { s with connections := s.connections.erase id }

def register (s : Service) (d : SourceDefinition) : Service :=
  { s with registry := s.registry.save d }

def unregister (s : Service) (id : String) : Service :=
  { s with registry := s.registry.erase id }

def definition (s : Service) (id : String) : Except Failure SourceDefinition := do
  match ← s.registry.get? id with
  | some d => .ok d
  | none => .error (notFound id)

def openSource (s : Service) (id : String) : Except Failure Source := do
  let d ← s.definition id
  Source.openAt s.world d.kind d.location

/-- Keeps a newly opened source, unless another one was kept under its id in the meantime. -/
def keep (s : Service) (id : String) (source : Source) : Service :=
  { s with connections := s.connections.putNew id ⟨source, []⟩ }

def connect (s : Service) (id : String) : Except Failure Connection × Service :=
  match s.connections.find? id with
  | some c => (.ok c, s)
  | none =>
    match s.openSource id with
    | .error f => (.error f, s)
    | .ok source => (.ok ⟨source, []⟩, s.keep id source)

def converse {α : Type} (s : Service) (id : String) (talk : Source → Session α) :
    Except Failure α × Service :=
  match s.connect id with
  | (.error f, s) => (.error f, s)
  | (.ok c, s) =>
    let (result, sent) := (talk c.source).run c.sent
    (result, { s with connections := s.connections.put id { c with sent := sent } })

/-- None when the run breaks off. -/
def execute (s : Service) (id table : String) (q : Query) : Option Outcome × Service :=
  let (result, s) := s.converse id fun source => q.execute source table
  (Outcome.ofRun? result, s)

def explain (s : Service) (id table : String) (q : Query) : Except Failure Plan × Service :=
  s.converse id fun source => liftM (q.explain source table)

def schema (s : Service) (id : String) : Except Failure Schema × Service :=
  s.converse id fun source => liftM source.schema

def fetch (s : Service) (id sql : String) : Except Failure (List Row) × Service :=
  s.converse id fun source => source.fetch sql

def probe (s : Service) (id : String) : Except Failure Unit × Service :=
  s.converse id fun source => liftM source.probe

end Service
end TableQuery
