import Mathlib.Data.List.Nodup
import TableQuery.Proofs.Execution.Conversation

namespace TableQuery

namespace Catalog

variable {α : Type} (c : Catalog α) (id other : String) (x : α)

theorem find?_erase :
    (c.erase id).find? other = if other = id then none else c.find? other := by
  rw [erase, find?, List.find?_filter]
  by_cases ho : other = id
  · rw [if_pos ho, Option.map_eq_none_iff, List.find?_eq_none]
    intro e _
    simp only [decide_eq_true_eq, not_and]
    intro he
    rwa [ho]
  · rw [if_neg ho, find?]
    congr 2
    funext e
    by_cases he : e.1 = other
    · simp [he, ho]
    · simp [he]

theorem find?_put :
    (c.put id x).find? other = if other = id then some x else c.find? other := by
  have h := c.find?_erase id other
  rw [find?] at h
  rw [put, find?, List.find?_append]
  by_cases ho : other = id
  · subst ho
    have hn : ((c.erase other).entries.find? fun e => e.1 = other) = none := by
      simpa using h
    simp [hn]
  · rw [if_neg ho] at h
    simp [ho, Ne.symm ho, h]

theorem find?_putNew :
    (c.putNew id x).find? other =
      if other = id then some ((c.find? id).getD x) else c.find? other := by
  rw [putNew, contains]
  cases h : c.find? id with
  | none =>
      rw [if_neg (by simp), find?_put]
      simp
  | some y =>
      rw [if_pos (by simp)]
      by_cases ho : other = id
      · subst ho
        simp [h]
      · simp [ho]

theorem contains_erase :
    (c.erase id).contains other = true ↔ other ≠ id ∧ c.contains other = true := by
  rw [contains, find?_erase]
  by_cases ho : other = id <;> simp [ho, contains]

theorem contains_put :
    (c.put id x).contains other = true ↔ other = id ∨ c.contains other = true := by
  rw [contains, find?_put]
  by_cases ho : other = id <;> simp [ho, contains]

theorem contains_putNew :
    (c.putNew id x).contains other = true ↔ other = id ∨ c.contains other = true := by
  rw [contains, find?_putNew]
  by_cases ho : other = id <;> simp [ho, contains]

theorem erase_erase : (c.erase id).erase id = c.erase id := by
  simp [erase, List.filter_filter]

theorem erase_put : (c.put id x).erase id = c.erase id := by
  simp [put, erase, List.filter_append, List.filter_filter]

theorem erase_putNew : (c.putNew id x).erase id = c.erase id := by
  rw [putNew]
  split
  · rfl
  · exact c.erase_put id x

/-- No two entries stand under one id. -/
def Distinct (c : Catalog α) : Prop := (c.entries.map Prod.fst).Nodup

theorem distinct_empty : (empty : Catalog α).Distinct := List.nodup_nil

variable {c}

theorem erase_of_find?_eq_none (h : c.find? id = none) : c.erase id = c := by
  have hf : c.entries.filter (fun e => e.1 ≠ id) = c.entries := by
    rw [List.filter_eq_self]
    simpa [find?] using h
  rw [erase, hf]

theorem find?_eq_some_iff (h : c.Distinct) : c.find? id = some x ↔ (id, x) ∈ c.entries := by
  rw [find?, Option.map_eq_some_iff]
  constructor
  · rintro ⟨⟨id', x'⟩, he, rfl⟩
    obtain rfl : id' = id := by simpa using List.find?_some he
    exact List.mem_of_find?_eq_some he
  · intro hx
    have hsome : (c.entries.find? fun e => e.1 = id).isSome := by
      rw [List.find?_isSome]
      exact ⟨(id, x), hx, by simp⟩
    obtain ⟨e, he⟩ := Option.isSome_iff_exists.mp hsome
    have hid : e.1 = id := by simpa using List.find?_some he
    have heq : e = (id, x) := List.inj_on_of_nodup_map h (List.mem_of_find?_eq_some he) hx hid
    exact ⟨e, he, by rw [heq]⟩

theorem distinct_erase (h : c.Distinct) : (c.erase id).Distinct :=
  h.sublist (List.filter_sublist.map Prod.fst)

theorem distinct_put (h : c.Distinct) : (c.put id x).Distinct := by
  rw [Distinct, put, List.map_append, List.nodup_append]
  refine ⟨distinct_erase id h, List.nodup_singleton _, ?_⟩
  intro other ho key hk
  obtain ⟨e, he, rfl⟩ := List.mem_map.mp ho
  obtain rfl := List.mem_singleton.mp hk
  simpa using (List.mem_filter.mp he).2

theorem distinct_putNew (h : c.Distinct) : (c.putNew id x).Distinct := by
  rw [putNew]
  split
  · exact h
  · exact distinct_put id x h

end Catalog

def Connection.after {α : Type} (c : Connection) (talk : Source → Session α) : Connection :=
  { c with sent := (talk c.source).sentAfter c.sent }

namespace Service

/-- The statements sent to the source under an id so far. -/
def sentTo (s : Service) (id : String) : List String :=
  ((s.connections.find? id).map Connection.sent).getD []

theorem ite_sentTo (s : Service) (id other : String) :
    (if other = id then s.sentTo id else s.sentTo other) = s.sentTo other := by
  by_cases hi : other = id
  · rw [if_pos hi, hi]
  · rw [if_neg hi]

variable {s : Service} {id : String}

/-- Where no connection can be opened, nothing changes. -/
theorem connect_of_error {f : Failure} (h : (s.connect id).1 = .error f) : (s.connect id).2 = s := by
  unfold connect at h ⊢
  cases hc : s.connections.find? id with
  | some c => simp [hc] at h
  | none =>
      rw [hc] at h
      cases ho : s.openSource id with
      | error f => rfl
      | ok source => simp [ho] at h

theorem sent_of_connect {c : Connection} (h : (s.connect id).1 = .ok c) : c.sent = s.sentTo id := by
  unfold connect at h
  cases hc : s.connections.find? id with
  | some k =>
      rw [hc] at h
      obtain rfl := Except.ok.inj h
      simp [sentTo, hc]
  | none =>
      rw [hc] at h
      cases ho : s.openSource id with
      | error f => simp [ho] at h
      | ok source =>
          rw [ho] at h
          obtain rfl := Except.ok.inj h
          simp [sentTo, hc]

theorem sentTo_connect (s : Service) (id other : String) :
    (s.connect id).2.sentTo other = s.sentTo other := by
  unfold connect
  cases hc : s.connections.find? id with
  | some c => rfl
  | none =>
      cases ho : s.openSource id with
      | error f => rfl
      | ok source =>
          simp only [keep, sentTo, Catalog.find?_putNew, hc]
          by_cases hi : other = id
          · subst hi
            simp [hc]
          · simp [hi]

variable {α : Type}

theorem converse_of_error (talk : Source → Session α) {f : Failure}
    (h : (s.connect id).1 = .error f) : s.converse id talk = (.error f, s) := by
  have hs := connect_of_error h
  unfold converse
  rcases hc : s.connect id with ⟨f' | c, s'⟩
  · rw [hc] at h hs
    obtain rfl := Except.error.inj h
    rw [show s' = s from hs]
  · simp [hc] at h

theorem converse_of_ok (talk : Source → Session α) {c : Connection}
    (h : (s.connect id).1 = .ok c) :
    s.converse id talk =
      ((talk c.source).result c.sent,
        { (s.connect id).2 with
          connections := (s.connect id).2.connections.put id (c.after talk) }) := by
  unfold converse
  rcases hc : s.connect id with ⟨f | c', s'⟩
  · simp [hc] at h
  · rw [hc] at h
    obtain rfl := Except.ok.inj h
    rfl

theorem sentTo_converse (talk : Source → Session α) {c : Connection}
    (h : (s.connect id).1 = .ok c) (other : String) :
    (s.converse id talk).2.sentTo other =
      if other = id then (talk c.source).sentAfter (s.sentTo id) else s.sentTo other := by
  rw [← sent_of_connect h, ← sentTo_connect s id other, converse_of_ok talk h]
  simp only [sentTo, Catalog.find?_put]
  by_cases hi : other = id
  · simp [hi, Connection.after]
  · simp [hi]

theorem connect_converse (talk : Source → Session α) {c : Connection}
    (h : (s.connect id).1 = .ok c) :
    ((s.converse id talk).2.connect id).1 = .ok (c.after talk) := by
  rw [converse_of_ok talk h]
  simp only [connect, Catalog.find?_put, if_true]

theorem registry_connect : (s.connect id).2.registry = s.registry := by
  unfold connect
  cases s.connections.find? id with
  | some c => rfl
  | none => cases s.openSource id <;> rfl

theorem registry_converse (talk : Source → Session α) :
    (s.converse id talk).2.registry = s.registry := by
  cases hc : (s.connect id).1 with
  | error f => rw [converse_of_error talk hc]
  | ok c =>
      rw [converse_of_ok talk hc]
      exact registry_connect

theorem definition_of_connect {c : Connection} (h : (s.connect id).1 = .ok c) :
    s.connections.contains id = true ∨ ∃ d, s.definition id = .ok d := by
  unfold connect at h
  cases hc : s.connections.find? id with
  | some c => exact .inl (by simp [Catalog.contains, hc])
  | none =>
      rw [hc] at h
      cases hd : s.definition id with
      | ok d => exact .inr ⟨d, rfl⟩
      | error f =>
          have ho : s.openSource id = .error f := by
            rw [openSource, hd]
            rfl
          simp [ho] at h

theorem contains_connect {other : String} :
    (s.connect id).2.connections.contains other = true ↔
      s.connections.contains other = true ∨ other = id ∧ ∃ c, (s.connect id).1 = .ok c := by
  unfold connect
  cases hc : s.connections.find? id with
  | some c =>
      have hid : s.connections.contains id = true := by simp [Catalog.contains, hc]
      constructor
      · exact .inl
      · rintro (ho | ⟨rfl, -⟩)
        · exact ho
        · exact hid
  | none =>
      cases s.openSource id with
      | error f => simp
      | ok source => simp [keep, Catalog.contains_putNew, or_comm]

theorem contains_converse (talk : Source → Session α) {other : String} :
    (s.converse id talk).2.connections.contains other = true ↔
      s.connections.contains other = true ∨ other = id ∧ ∃ c, (s.connect id).1 = .ok c := by
  cases hc : (s.connect id).1 with
  | error f => simp [converse_of_error talk hc]
  | ok c =>
      rw [converse_of_ok talk hc]
      simp [Catalog.contains_put, contains_connect, hc, or_comm]

theorem detach_connect : (s.connect id).2.detach id = s.detach id := by
  unfold connect
  cases s.connections.find? id with
  | some c => rfl
  | none =>
      cases s.openSource id with
      | error f => rfl
      | ok source => simp only [keep, detach, Catalog.erase_putNew]

theorem detach_converse (talk : Source → Session α) :
    (s.converse id talk).2.detach id = s.detach id := by
  cases hc : (s.connect id).1 with
  | error f => rw [converse_of_error talk hc]
  | ok c =>
      have hconnect : (s.connect id).2.detach id = s.detach id := detach_connect
      rw [converse_of_ok talk hc, ← hconnect]
      simp only [detach, Catalog.erase_put]

end Service
end TableQuery
