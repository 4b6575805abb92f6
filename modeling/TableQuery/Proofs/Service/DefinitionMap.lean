import TableQuery.Proofs.Calendar.Stamps
import TableQuery.Proofs.Service.UsableSources

namespace TableQuery

section MapM

variable {α β ε : Type} {f : α → Except ε β} {xs : List α}

theorem mapM_cons_of_eq_ok {x : α} {y : β} (h : f x = .ok y) :
    (x :: xs).mapM f = (xs.mapM f).map (y :: ·) := by
  rw [List.mapM_cons, h]
  cases xs.mapM f <;> rfl

theorem map_of_mapM_eq_ok {ys : List β} (h : xs.mapM f = .ok ys) : xs.map f = ys.map .ok := by
  induction xs generalizing ys with
  | nil =>
      obtain rfl := Except.ok.inj h
      rfl
  | cons x xs ih =>
      cases hx : f x with
      | error e =>
          rw [List.mapM_cons, hx] at h
          cases h
      | ok y =>
          rw [mapM_cons_of_eq_ok hx] at h
          cases hxs : xs.mapM f with
          | error e =>
              rw [hxs] at h
              cases h
          | ok zs =>
              rw [hxs] at h
              obtain rfl := Except.ok.inj h
              simp [hx, ih hxs]

theorem exists_mapM_eq_ok (h : ∀ x ∈ xs, ∃ y, f x = .ok y) : ∃ ys, xs.mapM f = .ok ys := by
  induction xs with
  | nil => exact ⟨[], rfl⟩
  | cons x xs ih =>
      obtain ⟨y, hy⟩ := h x List.mem_cons_self
      obtain ⟨ys, hys⟩ := ih fun x hx => h x (List.mem_cons_of_mem _ hx)
      exact ⟨y :: ys, by rw [mapM_cons_of_eq_ok hy, hys, Except.map]⟩

end MapM

namespace Registry

variable {r : Registry} {id other : String}

theorem definitionOf_storedForm {d : SourceDefinition} (h : d.createdAt.Shown) :
    definitionOf d.id (storedForm d) = .ok d := by
  rw [definitionOf, storedForm, Calendar.Instant.readStrict_stamp h]

theorem id_of_definitionOf {x : StoredDefinition} {d : SourceDefinition}
    (h : definitionOf id x = .ok d) : d.id = id := by
  unfold definitionOf at h
  split at h
  · cases h
    rfl
  · cases h

theorem get?_save {d : SourceDefinition} (h : d.createdAt.Shown) :
    (r.save d).get? other = if other = d.id then .ok (some d) else r.get? other := by
  rw [get?, save, Catalog.find?_put]
  by_cases ho : other = d.id
  · simp [ho, definitionOf_storedForm h, Except.map]
  · simp [ho, get?]

theorem get?_erase :
    get? (Catalog.erase r id) other = if other = id then .ok none else r.get? other := by
  rw [get?, Catalog.find?_erase]
  by_cases ho : other = id
  · simp [ho]
  · simp [ho, get?]

theorem find?_of_get?_eq_none (h : r.get? id = .ok none) : Catalog.find? r id = none := by
  unfold get? at h
  cases hx : Catalog.find? r id with
  | none => rfl
  | some x =>
      rw [hx] at h
      cases hd : definitionOf id x <;> simp [hd, Except.map] at h

theorem find?_of_get?_eq_some {d : SourceDefinition} (h : r.get? id = .ok (some d)) :
    ∃ x, Catalog.find? r id = some x ∧ definitionOf id x = .ok d := by
  unfold get? at h
  cases hx : Catalog.find? r id with
  | none => simp [hx] at h
  | some x =>
      rw [hx] at h
      cases hd : definitionOf id x with
      | error e => simp [hd, Except.map] at h
      | ok d' =>
          obtain rfl : d' = d := by simpa [hd, Except.map] using h
          exact ⟨x, rfl, hd⟩

end Registry

abbrev Definitions := String → Option SourceDefinition

namespace Definitions

def Lists (m : Definitions) (ds : List SourceDefinition) : Prop :=
  ds.Nodup ∧ ∀ d, d ∈ ds ↔ m d.id = some d

/-- The registry holds the definitions of the map. -/
structure Registered (m : Definitions) (r : Registry) : Prop where
  found (id : String) : r.get? id = .ok (m id)
  distinct : r.Distinct

/-- The registry holds the definitions of the map, and nothing else is connected. -/
structure Represents (m : Definitions) (s : Service) : Prop where
  registered (id : String) : s.registry.get? id = .ok (m id)
  distinct : s.registry.Distinct
  connected (id : String) : s.connections.contains id = true → (m id).isSome = true

open Http Service

/-- How a demand is answered where these definitions are registered, and which ones are
afterwards. -/
inductive Answered (m : Definitions) (fresh : Fresh) : Demand → Response → Definitions → Prop
  | listed {ds : List SourceDefinition} (h : m.Lists ds) :
      Answered m fresh .list (.ok (.obj [("sources", .arr (ds.map SourceDefinition.encode))])) m
  | created {r : SourceRequest} {kind : SourceKind} {d : SourceDefinition}
      (hkind : SourceKind.ofName r.kind = .ok kind)
      (hd : d = ⟨fresh.id, Text.trim r.name, kind, Text.trim r.location, fresh.now⟩)
      (hnew : m d.id = none) :
      Answered m fresh (.create r) ⟨201, .json d.encode⟩ (Function.update m d.id (some d))
  | refused {r : SourceRequest} {response : Response} (h : response.status ≠ 201) :
      Answered m fresh (.create r) response m
  | got {id : String} {d : SourceDefinition} (h : m id = some d) :
      Answered m fresh (.get id) (.ok d.encode) m
  | missed {id : String} (h : m id = none) :
      Answered m fresh (.get id) (.ofFailure (notFound id)) m
  | deleted {id : String} {d : SourceDefinition} (h : m id = some d) :
      Answered m fresh (.delete id) noContent (Function.update m id none)
  | undeleted {id : String} (h : m id = none) :
      Answered m fresh (.delete id) (.ofFailure (notFound id)) m
  | schema {id : String} {response : Response}
      (h : m id = none → response = .ofFailure (notFound id)) :
      Answered m fresh (.schema id) response m
  | compiled {id : String} {r : QueryRequest} {response : Response}
      (h : m id = none → response = .ofFailure (notFound id)) :
      Answered m fresh (.compile id r) response m
  | queried {id : String} {body : Json} {response : Response}
      (h : ∀ r, QueryRequest.decoder.decode body = .ok r → m id = none →
        response = .ok (Outcome.failure (notFound id).text).encode) :
      Answered m fresh (.query id body) response m

variable {m m' : Definitions} {r : Registry} {s s' : Service} {fresh : Fresh} {id : String}

theorem Registered.readable (h : m.Registered r) {x : StoredDefinition}
    (hx : (id, x) ∈ r.entries) :
    ∃ d, Registry.definitionOf id x = .ok d ∧ m id = some d := by
  have hr := h.found id
  rw [Registry.get?, (Catalog.find?_eq_some_iff _ _ h.distinct).mpr hx] at hr
  cases hd : Registry.definitionOf id x with
  | error e => simp [hd, Except.map] at hr
  | ok d =>
      simp only [hd, Except.map] at hr
      exact ⟨d, rfl, (Except.ok.inj hr).symm⟩

theorem Registered.eq_some_iff (h : m.Registered r) {d : SourceDefinition} :
    m id = some d ↔ ∃ x, (id, x) ∈ r.entries ∧ Registry.definitionOf id x = .ok d := by
  constructor
  · intro hd
    have hr := h.found id
    rw [hd] at hr
    obtain ⟨x, hx, hxd⟩ := Registry.find?_of_get?_eq_some hr
    exact ⟨x, (Catalog.find?_eq_some_iff _ _ h.distinct).mp hx, hxd⟩
  · rintro ⟨x, hx, hxd⟩
    obtain ⟨d', hd', hm⟩ := h.readable hx
    obtain rfl := Except.ok.inj (hd'.symm.trans hxd)
    exact hm

theorem Registered.list (h : m.Registered r) : ∃ ds, r.list = .ok ds ∧ m.Lists ds := by
  have hperm := r.entries.mergeSort_perm Registry.isLater
  have hread : ∀ e ∈ r.entries.mergeSort Registry.isLater,
      ∃ d, Registry.definitionOf e.1 e.2 = .ok d := by
    intro e he
    obtain ⟨d, hd, -⟩ := h.readable (hperm.mem_iff.mp he)
    exact ⟨d, hd⟩
  obtain ⟨ds, hds⟩ := exists_mapM_eq_ok hread
  have hmap := map_of_mapM_eq_ok hds
  have hnodup : (ds.map (Except.ok : _ → Except Failure SourceDefinition)).Nodup := by
    rw [← hmap]
    refine List.Nodup.map_on ?_ (hperm.nodup_iff.mpr (.of_map _ h.distinct))
    intro e he e' he' heq
    obtain ⟨d, hd⟩ := hread e he
    have hid : e.1 = e'.1 := by
      rw [← Registry.id_of_definitionOf hd, Registry.id_of_definitionOf (heq.symm.trans hd)]
    exact List.inj_on_of_nodup_map h.distinct (hperm.mem_iff.mp he) (hperm.mem_iff.mp he') hid
  refine ⟨ds, hds, .of_map _ hnodup, fun d => ?_⟩
  rw [h.eq_some_iff, ← List.mem_map_of_injective (fun _ _ => Except.ok.inj), ← hmap, List.mem_map]
  constructor
  · rintro ⟨⟨id, x⟩, he, hd⟩
    obtain rfl := Registry.id_of_definitionOf hd
    exact ⟨x, hperm.mem_iff.mp he, hd⟩
  · rintro ⟨x, hx, hd⟩
    exact ⟨(d.id, x), hperm.mem_iff.mpr hx, hd⟩

theorem Registered.save (h : m.Registered r) {d : SourceDefinition} (hd : d.createdAt.Shown) :
    Registered (Function.update m d.id (some d)) (r.save d) where
  found id := by
    rw [Registry.get?_save hd, h.found id, Function.update_apply]
    split <;> rfl
  distinct := Catalog.distinct_put _ _ h.distinct

theorem Registered.erase (h : m.Registered r) (id : String) :
    Registered (Function.update m id none) (Catalog.erase r id) where
  found other := by
    rw [Registry.get?_erase, Function.update_apply]
    split
    · rfl
    · exact h.found other
  distinct := Catalog.distinct_erase _ h.distinct

theorem Represents.registered_isSome (h : m.Represents s) (id : String) :
    s.registry.contains id = (m id).isSome := by
  have hr := h.registered id
  cases hm : m id with
  | none =>
      rw [hm] at hr
      simp [Catalog.contains, Registry.find?_of_get?_eq_none hr]
  | some d =>
      rw [hm] at hr
      obtain ⟨x, hx, -⟩ := Registry.find?_of_get?_eq_some hr
      simp [Catalog.contains, hx]

theorem Represents.not_usable (h : m.Represents s) (hm : m id = none) : ¬s.Usable id := by
  rintro (hr | hc)
  · simp [h.registered_isSome, hm] at hr
  · simpa [hm] using h.connected id hc

theorem Represents.definition (h : m.Represents s) :
    s.definition id = match m id with
      | some d => .ok d
      | none => .error (notFound id) := by
  rw [Service.definition, h.registered id]
  cases m id <;> rfl

theorem Represents.connect_of_none (h : m.Represents s) (hm : m id = none) :
    (s.connect id).1 = .error (notFound id) := by
  have hc : s.connections.find? id = none := by
    simpa [Catalog.contains] using (not_or.mp (h.not_usable hm)).2
  have ho : s.openSource id = .error (notFound id) := by
    rw [openSource, h.definition, hm]
    rfl
  simp only [connect, hc, ho]

theorem Represents.converse_of_none {α : Type} (h : m.Represents s) (hm : m id = none)
    (talk : Source → Session α) : s.converse id talk = (.error (notFound id), s) :=
  converse_of_error talk (h.connect_of_none hm)

theorem Represents.toRegistered (h : m.Represents s) : m.Registered s.registry :=
  ⟨h.registered, h.distinct⟩

theorem Represents.of_sameSources (h : m.Represents s) (hs : s.SameSources s') :
    m.Represents s' where
  registered id := by rw [hs.registry, h.registered id]
  distinct := by
    rw [hs.registry]
    exact h.distinct
  connected id hc := by
    by_contra hm
    exact h.not_usable (by simpa using hm) ((hs.usable id).mp (.inr hc))

theorem Represents.register (h : m.Represents s) {d : SourceDefinition}
    (hd : d.createdAt.Shown) : Represents (Function.update m d.id (some d)) (s.register d) where
  registered := (h.toRegistered.save hd).found
  distinct := (h.toRegistered.save hd).distinct
  connected id hc := by
    rw [Function.update_apply]
    split
    · rfl
    · exact h.connected id hc

theorem Represents.withdraw (h : m.Represents s) (id : String) :
    Represents (Function.update m id none) (withdraw s id) where
  registered := (h.toRegistered.erase id).found
  distinct := (h.toRegistered.erase id).distinct
  connected other hc := by
    rw [Function.update_apply]
    obtain ⟨ho, hc⟩ := (Catalog.contains_erase _ _ _).mp hc
    rw [if_neg ho]
    exact h.connected other hc

/-- Every demand is answered as the map says, and leaves a map that the service represents. -/
theorem Represents.fulfil (h : m.Represents s) (hnew : m fresh.id = none)
    (hnow : fresh.now.Reading) (d : Demand) :
    ∃ m', Answered m fresh d (fulfil s fresh d).1 m' ∧ m'.Represents (fulfil s fresh d).2 := by
  cases d with
  | list =>
      obtain ⟨ds, hds, hlists⟩ := h.toRegistered.list
      refine ⟨m, ?_, h⟩
      rw [Http.fulfil, listSources, hds]
      exact .listed hlists
  | create r =>
      obtain ⟨d, hd, hp, hcreate⟩ | ⟨f, hcreate⟩ := createSource_cases (h.not_usable hnew) r
      · obtain ⟨kind, hkind, rfl⟩ := eq_of_definition hd
        rw [Http.fulfil, hcreate]
        refine ⟨_, .created hkind rfl hnew, ?_⟩
        exact (h.register hnow.shown).of_sameSources (sameSources_converse _ _ _)
      · rw [Http.fulfil, hcreate]
        refine ⟨m, .refused ?_, h⟩
        cases hk : f.kind <;> simp [Response.ofFailure, failureStatus, hk]
  | get id =>
      refine ⟨m, ?_, h⟩
      rw [Http.fulfil, getSource, h.definition]
      cases hm : m id with
      | none => exact .missed hm
      | some d => exact .got hm
  | delete id =>
      rw [Http.fulfil, deleteSource, h.registered_isSome]
      cases hm : m id with
      | none =>
          refine ⟨m, .undeleted hm, ?_⟩
          rw [withdraw_of_not_usable (h.not_usable hm)]
          exact h
      | some d => exact ⟨_, .deleted hm, h.withdraw id⟩
  | schema id =>
      refine ⟨m, .schema fun hm => ?_,
        h.of_sameSources (sameSources_fulfil s fresh (by simp) (by simp))⟩
      rw [Http.fulfil, Service.schema, h.converse_of_none hm]
      rfl
  | query id body =>
      refine ⟨m, .queried fun r hr hm => ?_,
        h.of_sameSources (sameSources_fulfil s fresh (by simp) (by simp))⟩
      rw [Http.fulfil, runQuery, hr]
      simp only [execute, h.converse_of_none hm, Outcome.ofRun?]
  | compile id r =>
      refine ⟨m, .compiled fun hm => ?_,
        h.of_sameSources (sameSources_fulfil s fresh (by simp) (by simp))⟩
      rw [Http.fulfil, compileQuery, explain, h.converse_of_none hm]
      rfl

end Definitions

namespace Http

end Http

namespace Definitions

open Http Service

variable {m m' : Definitions} {s : Service}

end Definitions

open Http

end TableQuery
