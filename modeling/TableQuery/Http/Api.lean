import TableQuery.Http.Body
import TableQuery.Schema.Json
import TableQuery.Service.Basic
import TableQuery.Text.Blank

namespace TableQuery.Http

structure Fresh where
  id : String
  now : Calendar.Instant

def noContent : Response := ⟨204, .text ""⟩

def noRoute : Response := ⟨404, .text ""⟩

def wrongMethod : Response := ⟨405, .text ""⟩

/-- The connection is closed without an answer; no answer has this status. -/
def broken : Response := ⟨0, .text ""⟩

def badPath : Response := ⟨400, .text "Invalid URL: Invalid UTF-8 in `id`"⟩

def respond {α : Type} (encode : α → Json) (answer : Except Failure α × Service) :
    Response × Service :=
  match answer.1 with
  | .ok x => (.ok (encode x), answer.2)
  | .error f => (.ofFailure f, answer.2)

def listSources (s : Service) : Response :=
  match s.registry.list with
  | .ok ds => .ok (.obj [("sources", .arr (ds.map SourceDefinition.encode))])
  | .error f => .ofFailure f

def emptyField (what : String) : Failure := ⟨.validation, "Source " ++ what ++ " cannot be empty"⟩

def SourceRequest.definition (r : SourceRequest) (fresh : Fresh) :
    Except Failure SourceDefinition := do
  let name := Text.trim r.name
  let location := Text.trim r.location
  if name.isEmpty then .error (emptyField "name")
  if location.isEmpty then .error (emptyField "location")
  let kind ← SourceKind.ofName r.kind
  .ok ⟨fresh.id, name, kind, location, fresh.now⟩

def withdraw (s : Service) (id : String) : Service := (s.detach id).unregister id

/-- A source is kept only if it can be opened and answers. -/
def createSource (s : Service) (fresh : Fresh) (r : SourceRequest) : Response × Service :=
  match r.definition fresh with
  | .error f => (.ofFailure f, s)
  | .ok d =>
    match (s.register d).probe d.id with
    | (.ok (), s) => (⟨201, .json d.encode⟩, s)
    | (.error f, s) => (.ofFailure f, withdraw s d.id)

def getSource (s : Service) (id : String) : Response :=
  match s.definition id with
  | .ok d => .ok d.encode
  | .error f => .ofFailure f

/-- The connection is closed even if no definition was there. -/
def deleteSource (s : Service) (id : String) : Response × Service :=
  let response :=
    if s.registry.contains id then noContent else .ofFailure (Service.notFound id)
  (response, withdraw s id)

/-- A body that is no query is answered like a query that fails. -/
def runQuery (s : Service) (id : String) (body : Json) : Response × Service :=
  match QueryRequest.decoder.decode body with
  | .error r => (.ok (Outcome.failure ("Invalid query: " ++ r.message)).encode, s)
  | .ok r =>
    match s.execute id r.table r.query with
    | (some outcome, s) => (.ok outcome.encode, s)
    | (none, s) => (broken, s)

def compileQuery (s : Service) (id : String) (r : QueryRequest) : Response × Service :=
  respond Plan.encode (s.explain id r.table r.query)

def withBody {α : Type} (s : Service) (r : Request) (a : Json.Decoder α)
    (next : α → Response × Service) : Response × Service :=
  match r.read a with
  | .ok x => next x
  | .error response => (response, s)

def withId (s : Service) (id : String) (next : String → Response × Service) : Response × Service :=
  match decodeId id with
  | some id => next id
  | none => (badPath, s)

def isRead (method : String) : Bool := method = "GET" || method = "HEAD"

def atEndpoint (s : Service) (fresh : Fresh) (r : Request) : Endpoint → Response × Service
  | .health => if isRead r.method then (⟨200, .text "OK"⟩, s) else (wrongMethod, s)
  | .sources =>
    if isRead r.method then (listSources s, s)
    else if r.method = "POST" then withBody s r SourceRequest.decoder (createSource s fresh)
    else (wrongMethod, s)
  | .source id =>
    if isRead r.method then withId s id fun id => (getSource s id, s)
    else if r.method = "DELETE" then withId s id (deleteSource s)
    else (wrongMethod, s)
  | .schema id =>
    if isRead r.method then withId s id fun id => respond Schema.encode (s.schema id)
    else (wrongMethod, s)
  | .query id =>
    if r.method = "POST" then withId s id fun id => withBody s r .json (runQuery s id)
    else (wrongMethod, s)
  | .compile id =>
    if r.method = "POST" then
      withId s id fun id => withBody s r QueryRequest.decoder (compileQuery s id)
    else (wrongMethod, s)

/-- Any page may call the service, so every `OPTIONS` request is answered at once. -/
def answer (s : Service) (fresh : Fresh) (r : Request) : Response × Service :=
  if r.method = "OPTIONS" then (⟨200, .text ""⟩, s)
  else
    let (response, s) :=
      match Endpoint.ofPath (Target.path r.target.toList) with
      | some e => atEndpoint s fresh r e
      | none => (noRoute, s)
    (if r.method = "HEAD" then { response with body := .text "" } else response, s)

end TableQuery.Http
