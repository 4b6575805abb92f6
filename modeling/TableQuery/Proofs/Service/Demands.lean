import TableQuery.Http.Api
import TableQuery.Proofs.Service.Connections

namespace TableQuery.Http

/-- What a request demands of the sources. -/
inductive Demand
  | list
  | create (r : SourceRequest)
  | get (id : String)
  | delete (id : String)
  | schema (id : String)
  | query (id : String) (body : Json)
  | compile (id : String) (r : QueryRequest)

namespace Request

/-- The endpoint that the request's target leads to. -/
def endpoint? (r : Request) : Option Endpoint := Endpoint.ofPath (Target.path r.target.toList)

def demandAt? (r : Request) : Endpoint → Option Demand
  | .health => none
  | .sources =>
    if isRead r.method then some .list
    else if r.method = "POST" then (r.read SourceRequest.decoder).toOption.map .create
    else none
  | .source id =>
    if isRead r.method then (decodeId id).map .get
    else if r.method = "DELETE" then (decodeId id).map .delete
    else none
  | .schema id => if isRead r.method then (decodeId id).map .schema else none
  | .query id =>
    if r.method = "POST" then
      (decodeId id).bind fun id => (r.read .json).toOption.map (.query id)
    else none
  | .compile id =>
    if r.method = "POST" then
      (decodeId id).bind fun id => (r.read QueryRequest.decoder).toOption.map (.compile id)
    else none

def demand? (r : Request) : Option Demand := r.endpoint?.bind r.demandAt?

/-- A response as the request gets to see it: to `HEAD`, without its body. -/
def shown (r : Request) (response : Response) : Response :=
  if r.method = "HEAD" then { response with body := .text "" } else response

theorem status_shown (r : Request) (response : Response) :
    (r.shown response).status = response.status := by
  rw [shown]
  split <;> rfl

end Request

def fulfil (s : Service) (fresh : Fresh) : Demand → Response × Service
  | .list => (listSources s, s)
  | .create r => createSource s fresh r
  | .get id => (getSource s id, s)
  | .delete id => deleteSource s id
  | .schema id => respond Schema.encode (s.schema id)
  | .query id body => runQuery s id body
  | .compile id r => compileQuery s id r

/-- Nothing is created or deleted. -/
def Response.Plain (response : Response) : Prop := response.status ≠ 201 ∧ response.status ≠ 204

variable {s : Service} {fresh : Fresh} {r : Request}

theorem plain_shown {response : Response} (h : response.Plain) : (r.shown response).Plain := by
  rwa [Response.Plain, r.status_shown]

theorem plain_of_read_error {α : Type} {a : Json.Decoder α} {response : Response}
    (h : r.read a = .error response) : response.Plain := by
  simp only [Request.read] at h
  split at h
  · cases h
    exact ⟨by decide, by decide⟩
  · split at h
    · cases h
      exact ⟨by decide, by decide⟩
    · split at h
      · next rejection _ =>
          cases h
          unfold rejected
          split <;> simp [Response.Plain, malformedBody, misfitBody]
      · split at h
        · cases h
          exact ⟨by decide, by decide⟩
        · cases h

/-- An endpoint fulfils the demand, or its answer leaves the sources alone. -/
inductive Served (s : Service) (fresh : Fresh) :
    Option Demand → Response × Service → Prop
  | fulfilled (d : Demand) : Served s fresh (some d) (fulfil s fresh d)
  | declined {response : Response} (h : response.Plain) : Served s fresh none (response, s)

theorem served_withId (id : String) {make : String → Demand} {next : String → Response × Service}
    (h : ∀ id, next id = fulfil s fresh (make id)) :
    Served s fresh ((decodeId id).map make) (withId s id next) := by
  unfold withId
  cases decodeId id with
  | some id =>
      change Served s fresh (some (make id)) (next id)
      rw [h id]
      exact .fulfilled (make id)
  | none => exact .declined ⟨by decide, by decide⟩

theorem served_withBody {α : Type} (a : Json.Decoder α) {make : α → Demand}
    {next : α → Response × Service} (h : ∀ x, next x = fulfil s fresh (make x)) :
    Served s fresh ((r.read a).toOption.map make) (withBody s r a next) := by
  unfold withBody
  cases hr : r.read a with
  | ok x =>
      change Served s fresh (some (make x)) (next x)
      rw [h x]
      exact .fulfilled (make x)
  | error response => exact .declined (plain_of_read_error hr)

theorem served_withId_withBody {α : Type} (id : String) (a : Json.Decoder α)
    {make : String → α → Demand} {next : String → α → Response × Service}
    (h : ∀ id x, next id x = fulfil s fresh (make id x)) :
    Served s fresh ((decodeId id).bind fun id => (r.read a).toOption.map (make id))
      (withId s id fun id => withBody s r a (next id)) := by
  unfold withId
  cases decodeId id with
  | some id => exact served_withBody a (h id)
  | none => exact .declined ⟨by decide, by decide⟩

theorem served_wrongMethod : Served s fresh none (wrongMethod, s) :=
  .declined ⟨by decide, by decide⟩

theorem served_atEndpoint (s : Service) (fresh : Fresh) (r : Request) (e : Endpoint) :
    Served s fresh (r.demandAt? e) (atEndpoint s fresh r e) := by
  cases e with
  | health =>
      simp only [atEndpoint, Request.demandAt?]
      split
      · exact .declined ⟨by decide, by decide⟩
      · exact served_wrongMethod
  | sources =>
      simp only [atEndpoint, Request.demandAt?]
      split
      · exact .fulfilled .list
      · split
        · exact served_withBody _ fun _ => rfl
        · exact served_wrongMethod
  | source id =>
      simp only [atEndpoint, Request.demandAt?]
      split
      · exact served_withId id fun _ => rfl
      · split
        · exact served_withId id fun _ => rfl
        · exact served_wrongMethod
  | schema id =>
      simp only [atEndpoint, Request.demandAt?]
      split
      · exact served_withId id fun _ => rfl
      · exact served_wrongMethod
  | query id =>
      simp only [atEndpoint, Request.demandAt?]
      split
      · exact served_withId_withBody id _ fun _ _ => rfl
      · exact served_wrongMethod
  | compile id =>
      simp only [atEndpoint, Request.demandAt?]
      split
      · exact served_withId_withBody id _ fun _ _ => rfl
      · exact served_wrongMethod

theorem demand?_of_options (h : r.method = "OPTIONS") : r.demand? = none := by
  rw [Request.demand?, Option.bind_eq_none_iff]
  intro e _
  cases e <;> simp [Request.demandAt?, isRead, h]

/-- A request's demand is fulfilled, and any other request leaves the sources alone. -/
theorem answer_cases (s : Service) (fresh : Fresh) (r : Request) :
    (∃ d, r.demand? = some d ∧
      answer s fresh r = (r.shown (fulfil s fresh d).1, (fulfil s fresh d).2)) ∨
    (r.demand? = none ∧ ∃ response : Response, response.Plain ∧
      answer s fresh r = (response, s)) := by
  by_cases ho : r.method = "OPTIONS"
  · refine .inr ⟨demand?_of_options ho, ⟨200, .text ""⟩, ⟨by decide, by decide⟩, ?_⟩
    rw [answer, if_pos ho]
  · rw [answer, if_neg ho]
    unfold Request.demand? Request.endpoint?
    cases Endpoint.ofPath (Target.path r.target.toList) with
    | none => exact .inr ⟨rfl, r.shown noRoute, plain_shown ⟨by decide, by decide⟩, rfl⟩
    | some e =>
        have hserved := served_atEndpoint s fresh r e
        change (∃ d, r.demandAt? e = some d ∧
            (r.shown (atEndpoint s fresh r e).1, (atEndpoint s fresh r e).2) =
              (r.shown (fulfil s fresh d).1, (fulfil s fresh d).2)) ∨
          (r.demandAt? e = none ∧ ∃ response : Response, response.Plain ∧
            (r.shown (atEndpoint s fresh r e).1, (atEndpoint s fresh r e).2) = (response, s))
        generalize r.demandAt? e = demand?, atEndpoint s fresh r e = served at hserved ⊢
        cases hserved with
        | fulfilled d => exact .inl ⟨d, rfl, rfl⟩
        | @declined response h => exact .inr ⟨rfl, r.shown response, plain_shown h, rfl⟩

end TableQuery.Http
