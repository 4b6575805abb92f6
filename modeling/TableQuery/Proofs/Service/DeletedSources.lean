import TableQuery.Proofs.Service.Interleaving

namespace TableQuery

namespace Service

namespace Phase

/-- The definition has been read, and the source is not kept yet. -/
def HoldsDefinition : Phase → Prop
  | .opening _ => True
  | .keeping _ => True
  | _ => False

/-- This call has taken the definition out of the registry. -/
def HasUnregistered : Phase → Prop
  | .detaching _ => True
  | .deleted _ => True
  | _ => False

/-- The call finds no source: it answers so, or has not answered and will. -/
def Misses (id : String) : Phase → Prop
  | .answered result => result = .error (notFound id)
  | .opening _ => False
  | .keeping _ => False
  | _ => True

end Phase

/-- The action makes a source available under the id. -/
def Action.Restores (id : String) : Action → Prop
  | .register d => d.id = id
  | .attach other _ => other = id
  | _ => False

theorem definition_of_unregistered {s : Service} {id : String}
    (h : s.registry.find? id = none) : s.definition id = .error (notFound id) := by
  simp only [definition, Registry.get?, h]
  rfl

namespace Moves

variable {s s' : Service} {id other : String} {before after : Phase}

theorem registry_eq_none (h : Moves s other before after s') (hr : s.registry.find? id = none) :
    s'.registry.find? id = none := by
  cases h with
  | unregistered =>
      rw [find?_unregister]
      split
      · rfl
      · exact hr
  | _ => exact hr

theorem registry_of_hasUnregistered (h : Moves s id before after s') (ha : after.HasUnregistered) :
    before.HasUnregistered ∨ s'.registry.find? id = none := by
  cases h with
  | unregistered =>
      right
      rw [find?_unregister, if_pos rfl]
  | detached => exact .inl trivial
  | _ => exact ha.elim

/-- Connections come only from calls that hold a definition. -/
theorem connections_eq_none (h : Moves s other before after s')
    (hc : s.connections.find? id = none) (hb : other = id → ¬before.HoldsDefinition) :
    s'.connections.find? id = none := by
  cases h with
  | kept _ =>
      have hne : id ≠ other := fun he => hb he.symm trivial
      rw [find?_keep, if_neg hne]
      exact hc
  | detached =>
      rw [find?_detach]
      split
      · rfl
      · exact hc
  | _ => exact hc

theorem not_holdsDefinition (h : Moves s id before after s') (hr : s.registry.find? id = none)
    (hb : ¬before.HoldsDefinition) : ¬after.HoldsDefinition := by
  cases h with
  | resolved hd =>
      rw [definition_of_unregistered hr] at hd
      cases hd
  | opened => exact absurd trivial hb
  | _ => exact fun h => h

theorem misses (h : Moves s id before after s') (hr : s.registry.find? id = none)
    (hc : s.connections.find? id = none) (hb : before.Misses id) : after.Misses id := by
  cases h with
  | hit hk =>
      rw [hc] at hk
      cases hk
  | resolved hd =>
      rw [definition_of_unregistered hr] at hd
      cases hd
  | unresolved hf =>
      rw [definition_of_unregistered hr] at hf
      cases hf
      rfl
  | opened | unopened | kept _ => exact hb.elim
  | _ => trivial

end Moves

namespace Running

variable {id : String}

/-- Where some call has taken the definition out of the registry, it is not registered. -/
def Cleared (id : String) (r : Running) : Prop :=
  ∀ c ∈ r.calls, c.id = id → c.phase.HasUnregistered → r.service.registry.find? id = none

/-- Nothing is left under the id, and nothing is about to be: `first` is the number of the first
call that was begun afterwards. -/
structure Gone (id : String) (first : Nat) (r : Running) : Prop where
  registry : r.service.registry.find? id = none
  connections : r.service.connections.find? id = none
  pending : ∀ c ∈ r.calls, c.id = id → ¬c.phase.HoldsDefinition
  later : ∀ i c, first ≤ i → r.calls[i]? = some c → c.id = id → c.phase.Misses id

theorem cleared_act {r r' : Running} {a : Action} (h : r.Cleared id) (ha : ¬a.Restores id)
    (hact : r.act a = some r') : r'.Cleared id := by
  intro c hc hid hu
  cases a with
  | connect other | delete other =>
      cases hact
      obtain hc | hc := List.mem_append.mp hc
      · exact h c hc hid hu
      · cases List.mem_singleton.mp hc
        exact hu.elim
  | register d =>
      cases hact
      rw [find?_register, if_neg (Ne.symm ha)]
      exact h c hc hid hu
  | attach other source =>
      cases hact
      exact h c hc hid hu
  | advance i opened =>
      obtain ⟨k, phase, s, hk, hs, rfl⟩ := act_advance.mp hact
      have hmoves := moves_of_step hs
      obtain hc | rfl := List.mem_or_eq_of_mem_set hc
      · exact hmoves.registry_eq_none (h c hc hid hu)
      · subst hid
        obtain hbefore | hnone := hmoves.registry_of_hasUnregistered hu
        · exact hmoves.registry_eq_none (h k (List.mem_of_getElem? hk) rfl hbefore)
        · exact hnone

theorem getElem?_begin {calls : List Call} {c new : Call} {i : Nat}
    (h : (calls ++ [new])[i]? = some c) : calls[i]? = some c ∨ c = new := by
  rw [List.getElem?_append] at h
  split at h
  · exact .inl h
  · exact .inr (List.mem_singleton.mp (List.mem_of_getElem? h))

theorem getElem?_advance {calls : List Call} {c new : Call} {i j : Nat}
    (h : (calls.set j new)[i]? = some c) : calls[i]? = some c ∨ i = j ∧ c = new := by
  rw [List.getElem?_set] at h
  split at h
  · next hij =>
      split at h
      · exact .inr ⟨hij.symm, (Option.some.inj h).symm⟩
      · cases h
  · exact .inl h

theorem gone_begin {first : Nat} {r : Running} {new : Call} (h : r.Gone id first)
    (hp : ¬new.phase.HoldsDefinition) (hm : new.phase.Misses id) :
    Gone id first { r with calls := r.calls ++ [new] } where
  registry := h.registry
  connections := h.connections
  pending c hc hid := by
    obtain hc | hc := List.mem_append.mp hc
    · exact h.pending c hc hid
    · cases List.mem_singleton.mp hc
      exact hp
  later i c hi hc hid := by
    obtain hc | rfl := getElem?_begin hc
    · exact h.later i c hi hc hid
    · exact hm

theorem gone_advance {first i : Nat} {r : Running} {c : Call} {phase : Phase} {s : Service}
    (h : r.Gone id first) (hc : r.calls[i]? = some c) (hm : Moves r.service c.id c.phase phase s) :
    Gone id first ⟨s, r.calls.set i ⟨c.id, phase⟩⟩ where
  registry := hm.registry_eq_none h.registry
  connections := hm.connections_eq_none h.connections (h.pending c (List.mem_of_getElem? hc))
  pending k hk hid := by
    obtain hk | rfl := List.mem_or_eq_of_mem_set hk
    · exact h.pending k hk hid
    · subst hid
      exact hm.not_holdsDefinition h.registry (h.pending c (List.mem_of_getElem? hc) rfl)
  later j k hj hk hid := by
    obtain hk | ⟨rfl, rfl⟩ := getElem?_advance hk
    · exact h.later j k hj hk hid
    · subst hid
      exact hm.misses h.registry h.connections (h.later j c hj hc rfl)

theorem gone_act {first : Nat} {r r' : Running} {a : Action} (h : r.Gone id first)
    (ha : ¬a.Restores id) (hact : r.act a = some r') : r'.Gone id first := by
  cases a with
  | connect other | delete other =>
      cases hact
      exact gone_begin h (fun hp => hp) trivial
  | register d =>
      cases hact
      refine { h with registry := ?_ }
      rw [find?_register, if_neg (Ne.symm ha)]
      exact h.registry
  | attach other source =>
      cases hact
      refine { h with connections := ?_ }
      rw [find?_attach, if_neg (Ne.symm ha)]
      exact h.connections
  | advance i opened =>
      obtain ⟨c, phase, s, hc, hs, rfl⟩ := act_advance.mp hact
      exact gone_advance h hc (moves_of_step hs)

theorem connected_act_keeping {r : Running} {i : Nat} {source : Source}
    (hc : r.calls[i]? = some ⟨id, .keeping source⟩) (opened : Except Failure Source) :
    ∃ r', r.act (.advance i opened) = some r' ∧ r'.service.connections.find? id ≠ none := by
  refine ⟨_, act_advance.mpr ⟨_, _, r.service.keep id source, hc, rfl, rfl⟩, ?_⟩
  simp [find?_keep]

theorem connected_of_holdsDefinition {r : Running} {c : Call} (hc : c ∈ r.calls)
    (hp : c.phase.HoldsDefinition) :
    ∃ later r', (∀ a ∈ later, ¬a.Restores c.id) ∧ r.run later = some r' ∧
      r'.service.connections.find? c.id ≠ none := by
  obtain ⟨i, hi⟩ := List.getElem?_of_mem hc
  obtain ⟨other, phase⟩ := c
  -- It does not matter which source is opened.
  let source : Source := .ofAnswers .sqlite (.error (notFound other)) []
  cases phase with
  | keeping source =>
      obtain ⟨r', hact, hr'⟩ := connected_act_keeping hi (.ok source)
      exact ⟨[.advance i (.ok source)], r', by simp [Action.Restores],
        run_cons.mpr ⟨r', hact, rfl⟩, hr'⟩
  | opening d =>
      have hopen : r.act (.advance i (.ok source)) =
          some ⟨r.service, r.calls.set i ⟨other, .keeping source⟩⟩ :=
        act_advance.mpr ⟨_, _, _, hi, rfl, rfl⟩
      have hlt : i < r.calls.length := (List.getElem?_eq_some_iff.mp hi).1
      obtain ⟨r', hact, hr'⟩ := connected_act_keeping
        (r := ⟨r.service, r.calls.set i ⟨other, .keeping source⟩⟩)
        (List.getElem?_set_self hlt) (.ok source)
      exact ⟨[.advance i (.ok source), .advance i (.ok source)], r', by simp [Action.Restores],
        run_cons.mpr ⟨_, hopen, run_cons.mpr ⟨r', hact, rfl⟩⟩, hr'⟩
  | _ => exact hp.elim

theorem connect_of_gone {first : Nat} {r : Running} (h : r.Gone id first) :
    r.service.connect id = (.error (notFound id), r.service) := by
  have hopen : r.service.openSource id = .error (notFound id) := by
    rw [openSource, definition_of_unregistered h.registry]
    rfl
  simp only [connect, h.connections, hopen]

section Finish

variable {r : Running} {i : Nat} {found : Bool}

def finish (r : Running) (i : Nat) (id : String) (found : Bool) : Running :=
  ⟨r.service.detach id, r.calls.set i ⟨id, .deleted found⟩⟩

variable (hcall : r.calls[i]? = some ⟨id, .detaching found⟩)

include hcall

theorem act_finish (opened : Except Failure Source) :
    r.act (.advance i opened) = some (r.finish i id found) :=
  act_advance.mpr ⟨_, _, _, hcall, rfl, rfl⟩

theorem mem_finish {c : Call} (hc : c ∈ r.calls) (hp : c.phase.HoldsDefinition) :
    c ∈ (r.finish i id found).calls := by
  obtain ⟨k, hk⟩ := List.getElem?_of_mem hc
  have hne : i ≠ k := fun he => by
    subst he
    cases Option.some.inj (hcall.symm.trans hk)
    exact hp
  have hset : (r.calls.set i ⟨id, .deleted found⟩)[k]? = some c := by
    rw [List.getElem?_set_ne hne, hk]
  exact List.mem_of_getElem? hset

theorem gone_finish (hr : r.Cleared id)
    (hpending : ∀ c ∈ r.calls, c.id = id → ¬c.phase.HoldsDefinition) :
    (r.finish i id found).Gone id r.calls.length where
  registry := hr _ (List.mem_of_getElem? hcall) rfl trivial
  connections := by
    rw [finish, find?_detach, if_pos rfl]
  pending c hc hid := by
    obtain hc | rfl := List.mem_or_eq_of_mem_set hc
    · exact hpending c hc hid
    · exact fun hp => hp
  later j c hj hc _ := by
    have hlt := (List.getElem?_eq_some_iff.mp hc).1
    rw [finish, List.length_set] at hlt
    omega

end Finish

end Running

end Service

open Service Running in
/-- Of a deletion nothing is left, at any time after it has finished and in whatever order other
calls go on, exactly if no call for the same id holds a definition that it read before. -/
theorem deleted_stays_deleted_iff {s : Service} {id : String} {before : List Action} {r : Running}
    {i : Nat} {found : Bool} {opened : Except Failure Source}
    (hrun : (Running.of s).run before = some r) (hbefore : ∀ a ∈ before, ¬a.Restores id)
    (hcall : r.calls[i]? = some ⟨id, .detaching found⟩) :
    (∀ later r', (∀ a ∈ later, ¬a.Restores id) →
        r.run (.advance i opened :: later) = some r' →
        r'.service.connections.find? id = none ∧
          r'.service.connect id = (.error (notFound id), r'.service) ∧
          ∀ j result, r.calls.length ≤ j → r'.calls[j]? = some ⟨id, .answered result⟩ →
            result = .error (notFound id)) ↔
      ∀ c ∈ r.calls, c.id = id → ¬c.phase.HoldsDefinition := by
  have hfinish := act_finish hcall opened
  constructor
  · -- The call that holds a definition takes its steps right after the deletion.
    intro h c hc hid hp
    subst hid
    obtain ⟨later, r', hlater, hr', hconnected⟩ :=
      connected_of_holdsDefinition (mem_finish hcall hc hp) hp
    exact hconnected (h later r' hlater (run_cons.mpr ⟨_, hfinish, hr'⟩)).1
  · intro hpending later r' hlater hr'
    have hcleared : r.Cleared id := by
      refine invariant_of_run (fun hr ha hact => cleared_act hr ha hact) hbefore hrun ?_
      simp [Cleared, Running.of]
    obtain ⟨_, hact, hrest⟩ := run_cons.mp hr'
    cases hfinish.symm.trans hact
    have hgone := invariant_of_run (fun hr ha hact => gone_act hr ha hact) hlater hrest
      (gone_finish hcall hcleared hpending)
    exact ⟨hgone.connections, connect_of_gone hgone,
      fun j result hj hresult => hgone.later j _ hj hresult rfl⟩

def salesService : Service :=
  (Service.start (.ofFiles ⟨[], []⟩)).register
    ⟨"s1", "sales", .csv, "sales.csv", ⟨⟨2024, 3, 15⟩, ⟨0, 0⟩⟩⟩

open Service Running in
theorem sales_stay_deleted :
    let opened : Except Failure Source := .error (notFound "s1")
    let r : Running :=
      ⟨salesService.unregister "s1", [⟨"s1", .reading⟩, ⟨"s1", .detaching true⟩]⟩
    (Running.of salesService).run [.connect "s1", .delete "s1", .advance 1 opened] = some r ∧
      ∀ later r', (∀ a ∈ later, ¬a.Restores "s1") →
        r.run (.advance 1 opened :: later) = some r' →
        r'.service.connections.find? "s1" = none := by
  intro opened r
  have hrun : (Running.of salesService).run
      [.connect "s1", .delete "s1", .advance 1 opened] = some r := rfl
  have hpending : ∀ c ∈ r.calls, c.id = "s1" → ¬c.phase.HoldsDefinition := by
    intro c hc _ hp
    obtain rfl | hc := List.mem_cons.mp hc
    · exact hp
    · obtain rfl := List.mem_singleton.mp hc
      exact hp
  have hcall : r.calls[1]? = some ⟨"s1", .detaching true⟩ := rfl
  refine ⟨hrun, fun later r' hlater hr' => ?_⟩
  exact ((deleted_stays_deleted_iff hrun (by simp [Action.Restores]) hcall).mpr
    hpending later r' hlater hr').1

open Service in
/-- The definition is read before the deletion and the source is kept after it. -/
theorem sales_connected_after_deletion :
    let source : Source := .ofAnswers .sqlite (.error (notFound "s1")) []
    let schedule : List Action :=
      [.connect "s1", .advance 0 (.ok source), .advance 0 (.ok source),
        .delete "s1", .advance 1 (.ok source), .advance 1 (.ok source),
        .advance 0 (.ok source), .advance 0 (.ok source),
        .connect "s1", .advance 2 (.ok source)]
    salesService.connections.find? "s1" = none ∧ (∀ a ∈ schedule, ¬a.Restores "s1") ∧
      ∃ r, (Running.of salesService).run schedule = some r ∧
        r.calls[1]? = some ⟨"s1", .deleted true⟩ ∧
        (r.service.connections.find? "s1").isSome = true ∧
        ∃ c, r.calls[2]? = some ⟨"s1", .answered (.ok c)⟩ := by
  refine ⟨rfl, by simp [Action.Restores], _, rfl, rfl, rfl, _, rfl⟩

end TableQuery
