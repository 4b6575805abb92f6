import TableQuery.Http.Api
import TableQuery.Proofs.Service.Connections

namespace TableQuery

namespace Service

section Lookups

variable (s : Service) (id other : String) (source : Source)

theorem find?_keep :
    (s.keep id source).connections.find? other =
      if other = id then some ((s.connections.find? id).getD ⟨source, []⟩)
      else s.connections.find? other :=
  Catalog.find?_putNew _ _ _ _

theorem find?_attach :
    (s.attach id source).connections.find? other =
      if other = id then some ⟨source, []⟩ else s.connections.find? other :=
  Catalog.find?_put _ _ _ _

theorem find?_detach :
    (s.detach id).connections.find? other =
      if other = id then none else s.connections.find? other :=
  Catalog.find?_erase _ _ _

theorem find?_register (d : SourceDefinition) :
    (s.register d).registry.find? other =
      if other = d.id then some (Registry.storedForm d) else s.registry.find? other :=
  Catalog.find?_put _ _ _ _

theorem find?_unregister :
    (s.unregister id).registry.find? other =
      if other = id then none else s.registry.find? other :=
  Catalog.find?_erase _ _ _

end Lookups

/-- What a call does next, or how it ended. -/
inductive Phase
  | reading
  | resolving
  | opening (d : SourceDefinition)
  | keeping (source : Source)
  | answered (result : Except Failure Connection)
  | unregistering
  | detaching (found : Bool)
  | deleted (found : Bool)

/-- A call about the source under an id. -/
structure Call where
  id : String
  phase : Phase

/-- One step of a call, unless it has ended. Opening a source gives `opened`, whatever that is. -/
def Call.step (s : Service) (opened : Except Failure Source) (c : Call) : Option (Phase × Service) :=
  match c.phase with
  | .reading =>
    match s.connections.find? c.id with
    | some connection => some (.answered (.ok connection), s)
    | none => some (.resolving, s)
  | .resolving =>
    match s.definition c.id with
    | .ok d => some (.opening d, s)
    | .error f => some (.answered (.error f), s)
  | .opening _ =>
    match opened with
    | .ok source => some (.keeping source, s)
    | .error f => some (.answered (.error f), s)
  | .keeping source =>
    let kept := s.keep c.id source
    some (.answered (.ok ((kept.connections.find? c.id).getD ⟨source, []⟩)), kept)
  | .unregistering => some (.detaching (s.registry.contains c.id), s.unregister c.id)
  | .detaching found => some (.deleted found, s.detach c.id)
  | .answered _ => none
  | .deleted _ => none

/-- What one step of a call about `id` can do: the phases before and after it, and the service after
it. -/
inductive Moves (s : Service) (id : String) : Phase → Phase → Service → Prop
  | hit {c : Connection} (h : s.connections.find? id = some c) :
      Moves s id .reading (.answered (.ok c)) s
  | miss (h : s.connections.find? id = none) : Moves s id .reading .resolving s
  | resolved {d : SourceDefinition} (h : s.definition id = .ok d) :
      Moves s id .resolving (.opening d) s
  | unresolved {f : Failure} (h : s.definition id = .error f) :
      Moves s id .resolving (.answered (.error f)) s
  | opened {d : SourceDefinition} {source : Source} :
      Moves s id (.opening d) (.keeping source) s
  | unopened {d : SourceDefinition} {f : Failure} :
      Moves s id (.opening d) (.answered (.error f)) s
  | kept {source : Source} {c : Connection}
      (h : (s.keep id source).connections.find? id = some c) :
      Moves s id (.keeping source) (.answered (.ok c)) (s.keep id source)
  | unregistered :
      Moves s id .unregistering (.detaching (s.registry.contains id)) (s.unregister id)
  | detached {found : Bool} : Moves s id (.detaching found) (.deleted found) (s.detach id)

theorem moves_of_step {s s' : Service} {opened : Except Failure Source} {c : Call} {phase : Phase}
    (h : c.step s opened = some (phase, s')) : Moves s c.id c.phase phase s' := by
  obtain ⟨id, before⟩ := c
  cases before with
  | reading =>
      simp only [Call.step] at h
      split at h
      · next k hk =>
          cases h
          exact .hit hk
      · next hk =>
          cases h
          exact .miss hk
  | resolving =>
      simp only [Call.step] at h
      split at h
      · next d hd =>
          cases h
          exact .resolved hd
      · next f hf =>
          cases h
          exact .unresolved hf
  | opening d =>
      cases opened with
      | ok source =>
          cases h
          exact .opened
      | error f =>
          cases h
          exact .unopened
  | keeping source =>
      have hk := s.find?_keep id id source
      rw [if_pos rfl] at hk
      simp only [Call.step, hk, Option.getD_some] at h
      cases h
      exact .kept hk
  | unregistering =>
      cases h
      exact .unregistered
  | detaching found =>
      cases h
      exact .detached
  | answered result => cases h
  | deleted found => cases h

/-- A service with all calls that were begun so far. -/
structure Running where
  service : Service
  calls : List Call

/-- What may happen at any time: a call begins, a definition is saved, a source is attached, or some
call takes a step. -/
inductive Action
  | connect (id : String)
  | delete (id : String)
  | register (d : SourceDefinition)
  | attach (id : String) (source : Source)
  | advance (call : Nat) (opened : Except Failure Source)

namespace Running

def of (s : Service) : Running := ⟨s, []⟩

def act (r : Running) : Action → Option Running
  | .connect id => some { r with calls := r.calls ++ [⟨id, .reading⟩] }
  | .delete id => some { r with calls := r.calls ++ [⟨id, .unregistering⟩] }
  | .register d => some { r with service := r.service.register d }
  | .attach id source => some { r with service := r.service.attach id source }
  | .advance i opened =>
    r.calls[i]?.bind fun c =>
      (c.step r.service opened).map fun (phase, s) => ⟨s, r.calls.set i ⟨c.id, phase⟩⟩

/-- Some order in which things happen, if they all can. -/
def run (r : Running) : List Action → Option Running
  | [] => some r
  | a :: rest => (r.act a).bind fun next => next.run rest

variable {r r' : Running} {a : Action} {actions : List Action}

theorem run_cons :
    r.run (a :: actions) = some r' ↔ ∃ next, r.act a = some next ∧ next.run actions = some r' :=
  Option.bind_eq_some_iff

/-- What every allowed action preserves holds after every run of such actions. -/
theorem invariant_of_run {P : Running → Prop} {allowed : Action → Prop}
    (hstep : ∀ {r a r'}, P r → allowed a → r.act a = some r' → P r')
    (ha : ∀ a ∈ actions, allowed a) (h : r.run actions = some r') (hr : P r) : P r' := by
  induction actions generalizing r with
  | nil =>
      cases h
      exact hr
  | cons a actions ih =>
      obtain ⟨next, hnext, hrest⟩ := run_cons.mp h
      exact ih (fun b hb => ha b (List.mem_cons_of_mem _ hb)) hrest
        (hstep hr (ha a List.mem_cons_self) hnext)

theorem act_advance {i : Nat} {opened : Except Failure Source} :
    r.act (.advance i opened) = some r' ↔
      ∃ c phase s, r.calls[i]? = some c ∧ c.step r.service opened = some (phase, s) ∧
        r' = ⟨s, r.calls.set i ⟨c.id, phase⟩⟩ := by
  rw [act, Option.bind_eq_some_iff]
  constructor
  · rintro ⟨c, hc, h⟩
    obtain ⟨⟨phase, s⟩, hs, rfl⟩ := Option.map_eq_some_iff.mp h
    exact ⟨c, phase, s, hc, hs, rfl⟩
  · rintro ⟨c, phase, s, hc, hs, rfl⟩
    exact ⟨c, hc, Option.map_eq_some_iff.mpr ⟨(phase, s), hs, rfl⟩⟩

end Running

section Uninterrupted

/-- A call that connects and runs alone does what `connect` does. -/
theorem connect_uninterrupted (s : Service) (id : String) :
    ∃ steps, (Running.of s).run
        (.connect id :: List.replicate steps (.advance 0 (s.openSource id))) =
      some ⟨(s.connect id).2, [⟨id, .answered (s.connect id).1⟩]⟩ := by
  cases hc : s.connections.find? id with
  | some c =>
      refine ⟨1, ?_⟩
      simp [Running.run, Running.act, Running.of, Call.step, connect, hc]
  | none =>
      cases hd : s.definition id with
      | error f =>
          refine ⟨2, ?_⟩
          have ho : s.openSource id = .error f := by rw [openSource, hd]; rfl
          simp [Running.run, Running.act, Running.of, Call.step, connect, hc, hd, ho,
            List.replicate_succ]
      | ok d =>
          cases ho : s.openSource id with
          | error f =>
              refine ⟨3, ?_⟩
              simp [Running.run, Running.act, Running.of, Call.step, connect, hc, hd, ho,
                List.replicate_succ]
          | ok source =>
              refine ⟨4, ?_⟩
              simp [Running.run, Running.act, Running.of, Call.step, connect, keep, hc, hd, ho,
                Catalog.find?_putNew, List.replicate_succ]

theorem delete_uninterrupted (s : Service) (id : String) (opened : Except Failure Source) :
    (Running.of s).run [.delete id, .advance 0 opened, .advance 0 opened] =
        some ⟨(Http.deleteSource s id).2, [⟨id, .deleted (s.registry.contains id)⟩]⟩ := by
  rfl

end Uninterrupted

end Service

end TableQuery
