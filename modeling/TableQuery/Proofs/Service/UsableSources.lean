import TableQuery.Proofs.Service.Demands

namespace TableQuery

namespace Service

/-- A source under the id is registered or connected. -/
def Usable (s : Service) (id : String) : Prop :=
  s.registry.contains id = true ∨ s.connections.contains id = true

/-- The same definitions are registered, and the same sources can be used. -/
structure SameSources (s s' : Service) : Prop where
  registry : s'.registry = s.registry
  usable (id : String) : s'.Usable id ↔ s.Usable id

theorem sameSources_refl (s : Service) : s.SameSources s := ⟨rfl, fun _ => Iff.rfl⟩

variable {α : Type} {s : Service} {id : String}

theorem contains_of_definition {d : SourceDefinition} (h : s.definition id = .ok d) :
    s.registry.contains id = true := by
  unfold definition Registry.get? at h
  cases hf : s.registry.find? id with
  | some x => simp [Catalog.contains, hf]
  | none => simp [hf, bind, Except.bind] at h

theorem usable_of_connect {c : Connection} (h : (s.connect id).1 = .ok c) : s.Usable id := by
  obtain hc | ⟨d, hd⟩ := definition_of_connect h
  · exact .inr hc
  · exact .inl (contains_of_definition hd)

theorem sameSources_converse (s : Service) (id : String) (talk : Source → Session α) :
    s.SameSources (s.converse id talk).2 where
  registry := registry_converse talk
  usable other := by
    unfold Usable
    rw [registry_converse talk, contains_converse talk]
    constructor
    · rintro (hr | hc | ⟨rfl, c, hc⟩)
      · exact .inl hr
      · exact .inr hc
      · exact usable_of_connect hc
    · rintro (hr | hc)
      · exact .inl hr
      · exact .inr (.inl hc)

end Service

namespace Http

open Service

variable {s : Service} {fresh : Fresh}

theorem withdraw_converse {α : Type} (s : Service) (id : String) (talk : Source → Session α) :
    withdraw (s.converse id talk).2 id = withdraw s id := by
  rw [withdraw, detach_converse talk, withdraw]

theorem withdraw_register (s : Service) (d : SourceDefinition) :
    withdraw (s.register d) d.id = withdraw s d.id := by
  simp only [withdraw, detach, unregister, register, Registry.save, Catalog.erase_put]

theorem withdraw_of_not_usable {id : String} (h : ¬s.Usable id) : withdraw s id = s := by
  obtain ⟨hr, hc⟩ := not_or.mp h
  rw [Catalog.contains, Bool.not_eq_true, Option.isSome_eq_false_iff,
    Option.isNone_iff_eq_none] at hr hc
  simp only [withdraw, detach, unregister, Catalog.erase_of_find?_eq_none id hr,
    Catalog.erase_of_find?_eq_none id hc]

theorem eq_of_definition {r : SourceRequest} {d : SourceDefinition}
    (h : r.definition fresh = .ok d) :
    ∃ kind, SourceKind.ofName r.kind = .ok kind ∧
      d = ⟨fresh.id, Text.trim r.name, kind, Text.trim r.location, fresh.now⟩ := by
  simp only [SourceRequest.definition, bind, Except.bind] at h
  split at h
  · cases h
  · split at h
    · cases h
    · split at h
      · cases h
      · next kind hkind =>
          cases h
          exact ⟨kind, hkind, rfl⟩

/-- A source is created, or everything is as it was. -/
theorem createSource_cases (hfresh : ¬s.Usable fresh.id) (r : SourceRequest) :
    (∃ d, r.definition fresh = .ok d ∧ ((s.register d).probe d.id).1 = .ok () ∧
      createSource s fresh r = (⟨201, .json d.encode⟩, ((s.register d).probe d.id).2)) ∨
    ∃ f, createSource s fresh r = (.ofFailure f, s) := by
  cases hd : r.definition fresh with
  | error f => exact .inr ⟨f, by simp only [createSource, hd]⟩
  | ok d =>
      have hid : d.id = fresh.id := by
        obtain ⟨kind, -, rfl⟩ := eq_of_definition hd
        rfl
      -- Nothing was under the id before, so that nothing is left of a registration taken back.
      have hback : withdraw ((s.register d).probe d.id).2 d.id = s := by
        rw [probe, withdraw_converse, withdraw_register, hid, withdraw_of_not_usable hfresh]
      rcases hp : (s.register d).probe d.id with ⟨f | ⟨⟩, s'⟩
      · rw [hp] at hback
        exact .inr ⟨f, by simp only [createSource, hd, hp, hback]⟩
      · exact .inl ⟨d, rfl, by rw [hp], by simp only [createSource, hd, hp]⟩

theorem snd_respond {α : Type} (encode : α → Json) (answer : Except Failure α × Service) :
    (respond encode answer).2 = answer.2 := by
  unfold respond
  split <;> rfl

theorem sameSources_runQuery (s : Service) (id : String) (body : Json) :
    s.SameSources (runQuery s id body).2 := by
  unfold runQuery
  cases QueryRequest.decoder.decode body with
  | error e => exact sameSources_refl s
  | ok r =>
      have h := sameSources_converse s id fun source => r.query.execute source r.table
      change s.SameSources (s.execute id r.table r.query).2 at h
      rcases he : s.execute id r.table r.query with ⟨_ | outcome, s'⟩ <;> rw [he] at h
      · simpa only [he] using h
      · simpa only [he] using h

theorem sameSources_fulfil (s : Service) (fresh : Fresh) {d : Demand} (hc : ∀ r, d ≠ .create r)
    (hd : ∀ id, d ≠ .delete id) : s.SameSources (fulfil s fresh d).2 := by
  cases d with
  | list => exact sameSources_refl s
  | get id => exact sameSources_refl s
  | create r => exact absurd rfl (hc r)
  | delete id => exact absurd rfl (hd id)
  | schema id =>
      rw [fulfil, snd_respond]
      exact sameSources_converse s id _
  | query id body => exact sameSources_runQuery s id body
  | compile id r =>
      rw [fulfil, compileQuery, snd_respond]
      exact sameSources_converse s id _

theorem usable_withdraw {id other : String} :
    (withdraw s id).Usable other ↔ other ≠ id ∧ s.Usable other := by
  simp only [Usable, withdraw, detach, unregister, Catalog.contains_erase, ← and_or_left]

theorem sameSources_withdraw_iff {id : String} (hr : s.registry.contains id = false) :
    s.SameSources (withdraw s id) ↔ s.connections.contains id = false := by
  constructor
  · intro h
    have hid : ¬s.Usable id := fun hu => (usable_withdraw.mp ((h.usable id).mpr hu)).1 rfl
    simpa using (not_or.mp hid).2
  · intro hc
    rw [withdraw_of_not_usable (by simp [Usable, hr, hc])]
    exact sameSources_refl s

theorem sameSources_fulfil_iff (hfresh : ¬s.Usable fresh.id) (d : Demand)
    (herror : 400 ≤ (fulfil s fresh d).1.status) :
    s.SameSources (fulfil s fresh d).2 ↔
      ¬∃ id, d = .delete id ∧ s.registry.contains id = false ∧ s.connections.contains id = true := by
  cases d with
  | create r =>
      obtain ⟨d, -, -, hcreate⟩ | ⟨f, hcreate⟩ := createSource_cases hfresh r
      · rw [fulfil, hcreate] at herror
        exact absurd herror (by simp)
      · simp [fulfil, hcreate, sameSources_refl]
  | delete id =>
      have hr : s.registry.contains id = false := by
        cases hr : s.registry.contains id with
        | false => rfl
        | true => simp [fulfil, deleteSource, hr, noContent] at herror
      have hwithdraw := sameSources_withdraw_iff hr
      simpa [fulfil, deleteSource, hr] using hwithdraw
  | _ => simp [sameSources_fulfil]

/-- A failed request changes nothing about which sources can be used, unless it deletes a source
that is connected and not registered. -/
theorem failed_request_keeps_sources_iff (r : Request) (hfresh : ¬s.Usable fresh.id)
    (herror : 400 ≤ (answer s fresh r).1.status) :
    s.SameSources (answer s fresh r).2 ↔
      ¬∃ id, r.demand? = some (.delete id) ∧ s.registry.contains id = false ∧
        s.connections.contains id = true := by
  obtain ⟨d, hd, hanswer⟩ | ⟨hd, response, -, hanswer⟩ := answer_cases s fresh r
  · rw [hanswer, r.status_shown] at herror
    rw [hanswer, sameSources_fulfil_iff hfresh d herror]
    simp [hd]
  · simp [hanswer, hd, sameSources_refl]

def attachedService : Service := (start (.ofFiles ⟨[], []⟩)).attach "a" (Source.ofDatabase .empty)

def firstFresh : Fresh := ⟨"s1", ⟨⟨2024, 1, 1⟩, ⟨0, 0⟩⟩⟩

def deletion (id : String) : Request := ⟨"DELETE", "/api/sources/" ++ id, none, ""⟩

theorem demand?_deletion {id : String} (he : (deletion id).endpoint? = some (.source id))
    (hid : decodeId id = some id) : (deletion id).demand? = some (.delete id) := by
  rw [Request.demand?, he]
  simp [Request.demandAt?, isRead, deletion, hid]

theorem unknown_deletion_keeps_sources :
    ¬attachedService.Usable firstFresh.id ∧
      (answer attachedService firstFresh (deletion "b")).1.status = 404 ∧
      attachedService.SameSources (answer attachedService firstFresh (deletion "b")).2 := by
  have hfresh : ¬attachedService.Usable firstFresh.id := not_or.mpr ⟨by decide, by decide⟩
  have hstatus : (answer attachedService firstFresh (deletion "b")).1.status = 404 := by
    decide +kernel
  refine ⟨hfresh, hstatus, ?_⟩
  have hdemand : (deletion "b").demand? = some (.delete "b") :=
    demand?_deletion (by decide +kernel) (by decide +kernel)
  apply (failed_request_keeps_sources_iff (deletion "b") hfresh (by omega)).mpr
  rintro ⟨id, hd, -, hc⟩
  obtain rfl := Demand.delete.inj (Option.some.inj (hdemand.symm.trans hd))
  exact absurd hc (by decide)

/-- The deletion answers that there is no source, and after it there is none. -/
theorem attached_source_lost :
    attachedService.Usable "a" ∧
      (answer attachedService firstFresh (deletion "a")).1.status = 404 ∧
      ¬(answer attachedService firstFresh (deletion "a")).2.Usable "a" := by
  refine ⟨.inr (by decide), by decide +kernel, ?_⟩
  exact not_or.mpr ⟨by decide +kernel, by decide +kernel⟩

end Http
end TableQuery
