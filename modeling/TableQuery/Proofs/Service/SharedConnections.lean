import TableQuery.Proofs.Service.DeletedSources

namespace TableQuery

namespace Service

/-- The call deletes its source, or has done so. -/
def Phase.Deletes : Phase → Prop
  | .unregistering => True
  | .detaching _ => True
  | .deleted _ => True
  | _ => False

/-- The action may close the connection under the id or put another one in its place. -/
def Action.Displaces (id : String) : Action → Prop
  | .delete other => other = id
  | .attach other _ => other = id
  | _ => False

namespace Moves

variable {s s' : Service} {id other : String} {before after : Phase} {k : Connection}

theorem not_deletes (h : Moves s id before after s') (hb : ¬before.Deletes) : ¬after.Deletes := by
  cases h with
  | unregistered => exact absurd trivial hb
  | detached => exact absurd trivial hb
  | _ => exact fun ha => ha

theorem connection_kept (h : Moves s other before after s') (hb : other = id → ¬before.Deletes)
    (hk : s.connections.find? id = some k) : s'.connections.find? id = some k := by
  cases h with
  | kept _ =>
      rw [find?_keep]
      split
      · next he => rw [← he, hk, Option.getD_some]
      · exact hk
  | detached =>
      have hne : id ≠ other := fun he => hb he.symm trivial
      rw [find?_detach, if_neg hne]
      exact hk
  | _ => exact hk

theorem connection_given (h : Moves s id before (.answered (.ok k)) s') :
    s'.connections.find? id = some k := by
  cases h with
  | hit hk => exact hk
  | kept hk => exact hk

theorem distinct (h : Moves s id before after s') (hs : s.connections.Distinct) :
    s'.connections.Distinct := by
  cases h with
  | kept _ => exact Catalog.distinct_putNew _ _ hs
  | detached => exact Catalog.distinct_erase _ hs
  | _ => exact hs

theorem erase_connections (h : Moves s id before after s') :
    s'.connections.erase id = s.connections.erase id := by
  cases h with
  | kept _ => exact Catalog.erase_putNew _ _ _
  | detached => exact Catalog.erase_erase _ _
  | _ => rfl

end Moves

namespace Running

variable {id : String} {r r' : Running} {a : Action}

/-- Whoever has connected the id was given the connection that is kept for it, and nobody takes it
away. -/
structure Agreed (id : String) (r : Running) : Prop where
  undeleted : ∀ c ∈ r.calls, c.id = id → ¬c.phase.Deletes
  given : ∀ k, ⟨id, .answered (.ok k)⟩ ∈ r.calls → r.service.connections.find? id = some k

theorem agreed_of (s : Service) (id : String) : (Running.of s).Agreed id where
  undeleted c hc := by simp [Running.of] at hc
  given k hk := by simp [Running.of] at hk

/-- A connection is not replaced by another one. -/
theorem connection_kept_act {k : Connection} (h : r.Agreed id) (ha : ¬a.Displaces id)
    (hact : r.act a = some r') (hk : r.service.connections.find? id = some k) :
    r'.service.connections.find? id = some k := by
  cases a with
  | connect other | delete other | register d =>
      cases hact
      exact hk
  | attach other source =>
      cases hact
      rw [find?_attach, if_neg (Ne.symm ha)]
      exact hk
  | advance i opened =>
      obtain ⟨c, phase, s, hc, hs, rfl⟩ := act_advance.mp hact
      exact (moves_of_step hs).connection_kept (h.undeleted c (List.mem_of_getElem? hc)) hk

theorem agreed_begin {new : Call} (h : r.Agreed id) (hn : new.id = id → ¬new.phase.Deletes)
    (hp : ∀ result, new.phase ≠ .answered result) :
    Agreed id { r with calls := r.calls ++ [new] } where
  undeleted c hc := by
    obtain hc | hc := List.mem_append.mp hc
    · exact h.undeleted c hc
    · cases List.mem_singleton.mp hc
      exact hn
  given k hk := by
    obtain hk | hk := List.mem_append.mp hk
    · exact h.given k hk
    · cases List.mem_singleton.mp hk
      exact absurd rfl (hp (.ok k))

theorem agreed_advance {i : Nat} {c : Call} {phase : Phase} {s : Service} (h : r.Agreed id)
    (hc : r.calls[i]? = some c) (hm : Moves r.service c.id c.phase phase s) :
    Agreed id ⟨s, r.calls.set i ⟨c.id, phase⟩⟩ where
  undeleted other ho hid := by
    obtain ho | rfl := List.mem_or_eq_of_mem_set ho
    · exact h.undeleted other ho hid
    · exact hm.not_deletes (h.undeleted c (List.mem_of_getElem? hc) hid)
  given k hk := by
    obtain hk | hk := List.mem_or_eq_of_mem_set hk
    · exact hm.connection_kept (h.undeleted c (List.mem_of_getElem? hc)) (h.given k hk)
    · obtain ⟨rfl, rfl⟩ := Call.mk.inj hk
      exact hm.connection_given

theorem agreed_act (h : r.Agreed id) (ha : ¬a.Displaces id) (hact : r.act a = some r') :
    r'.Agreed id := by
  cases a with
  | connect other =>
      cases hact
      exact agreed_begin h (fun _ hd => hd) (fun _ => nofun)
  | delete other =>
      cases hact
      exact agreed_begin h (fun he => absurd he ha) (fun _ => nofun)
  | register d =>
      cases hact
      exact ⟨h.undeleted, h.given⟩
  | attach other source =>
      have hkept {k : Connection} := connection_kept_act (k := k) h ha hact
      cases hact
      exact ⟨h.undeleted, fun k hk => hkept (h.given k hk)⟩
  | advance i opened =>
      obtain ⟨c, phase, s, hc, hs, rfl⟩ := act_advance.mp hact
      exact agreed_advance h hc (moves_of_step hs)

theorem distinct_act (h : r.service.connections.Distinct) (hact : r.act a = some r') :
    r'.service.connections.Distinct := by
  cases a with
  | connect other | delete other | register d =>
      cases hact
      exact h
  | attach other source =>
      cases hact
      exact Catalog.distinct_put _ _ h
  | advance i opened =>
      obtain ⟨c, phase, s, -, hs, rfl⟩ := act_advance.mp hact
      exact (moves_of_step hs).distinct h

end Running

end Service

open Service Running in
/-- Sources may be opened differently each time. Still all calls that succeed, early or late, are
given one and the same connection; it stands alone under its id and stays there, and a call about
the id touches the entry of no other one. -/
theorem concurrent_connections_agree {s : Service} {id : String} {before later : List Action}
    {r r' : Running} (hs : s.connections.Distinct)
    (hbefore : ∀ a ∈ before, ¬a.Displaces id) (hlater : ∀ a ∈ later, ¬a.Displaces id)
    (hr : (Running.of s).run before = some r) (hr' : r.run later = some r') :
    (∀ k k', ⟨id, .answered (.ok k)⟩ ∈ r.calls → ⟨id, .answered (.ok k')⟩ ∈ r'.calls → k = k') ∧
      (∀ k, ⟨id, .answered (.ok k)⟩ ∈ r'.calls →
        r'.service.connect id = (.ok k, r'.service)) ∧
      r'.service.connections.Distinct ∧
      (∀ k, r.service.connections.find? id = some k →
        r'.service.connections.find? id = some k) ∧
      ∀ i phase opened next, r'.calls[i]? = some ⟨id, phase⟩ →
        r'.act (.advance i opened) = some next →
        next.service.connections.erase id = r'.service.connections.erase id := by
  have hagreed : r.Agreed id := invariant_of_run (fun h ha hact => agreed_act h ha hact) hbefore hr
    (agreed_of s id)
  have hagreed' : r'.Agreed id := invariant_of_run (fun h ha hact => agreed_act h ha hact) hlater
    hr' hagreed
  have hkept {k : Connection} (hk : r.service.connections.find? id = some k) :
      r'.service.connections.find? id = some k := by
    refine (invariant_of_run (P := fun r => r.Agreed id ∧ r.service.connections.find? id = some k)
      (fun h ha hact => ?_) hlater hr' ⟨hagreed, hk⟩).2
    exact ⟨agreed_act h.1 ha hact, connection_kept_act h.1 ha hact h.2⟩
  have hdistinct : r.service.connections.Distinct :=
    invariant_of_run (fun h _ hact => distinct_act h hact) hbefore hr hs
  have hdistinct' : r'.service.connections.Distinct :=
    invariant_of_run (fun h _ hact => distinct_act h hact) hlater hr' hdistinct
  refine ⟨?_, ?_, hdistinct', fun k hk => hkept hk, ?_⟩
  · intro k k' hk hk'
    exact Option.some.inj ((hkept (hagreed.given k hk)).symm.trans (hagreed'.given k' hk'))
  · intro k hk
    simp only [connect, hagreed'.given k hk]
  · intro i phase opened next hi hact
    obtain ⟨c, after, t, hc, hstep, rfl⟩ := act_advance.mp hact
    obtain rfl := Option.some.inj (hi.symm.trans hc)
    exact (moves_of_step hstep).erase_connections

open Service Running in
theorem sales_connected_once :
    let first : Source := .ofAnswers .sqlite (.error (notFound "s1")) []
    let second : Source := .ofAnswers .mysql (.error (notFound "s1")) []
    let opening : List Action :=
      [.connect "s1", .connect "s1",
        .advance 0 (.ok first), .advance 0 (.ok first), .advance 0 (.ok first),
        .advance 1 (.ok second), .advance 1 (.ok second), .advance 1 (.ok second)]
    let keeping : List Action := [.advance 1 (.ok second), .advance 0 (.ok first)]
    first ≠ second ∧ salesService.connections.Distinct ∧
      ∃ r r', (Running.of salesService).run opening = some r ∧ r.run keeping = some r' ∧
        ⟨"s1", .keeping first⟩ ∈ r.calls ∧ ⟨"s1", .keeping second⟩ ∈ r.calls ∧
        (∀ c ∈ r'.calls, c = ⟨"s1", .answered (.ok ⟨second, []⟩)⟩) ∧
        r'.service.connect "s1" = (.ok ⟨second, []⟩, r'.service) := by
  intro first second opening keeping
  have hopening : ∀ a ∈ opening, ¬a.Displaces "s1" := by simp [opening, Action.Displaces]
  have hkeeping : ∀ a ∈ keeping, ¬a.Displaces "s1" := by simp [keeping, Action.Displaces]
  have hempty : salesService.connections.Distinct := Catalog.distinct_empty
  refine ⟨?_, hempty, _, _, rfl, rfl, ?_, ?_, ?_, ?_⟩
  · intro h
    cases congrArg Source.dialect h
  · exact List.mem_cons_self
  · exact List.mem_cons_of_mem _ List.mem_cons_self
  · intro c hc
    obtain rfl | hc := List.mem_cons.mp hc
    · rfl
    · obtain rfl := List.mem_singleton.mp hc
      rfl
  · refine (concurrent_connections_agree hempty hopening hkeeping rfl rfl).2.1 _ ?_
    exact List.mem_cons_self

end TableQuery
