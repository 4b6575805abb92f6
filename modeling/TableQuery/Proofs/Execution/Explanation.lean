import TableQuery.Proofs.Service.Connections

namespace TableQuery

open Sql (Statement)

def Sql.Statement.limit? : Statement → Option Nat
  | .plain _ ending => ending.limit
  | .windowed _ _ ending => ending.limit

namespace Query

/-- The statement a run begins with: all raw rows on a fallback path, and otherwise the query itself
up to its cap. -/
def firstStatement (q : Query) (d : Dialect) (table : String) : Statement :=
  if (q.path d).isFallback then q.rawQuery.statement table false else q.statement table true

/-- The rows of a native run's first statement, which was sent after `n` others, are as many as the
query may return. -/
def FillsCap (q : Query) (s : Source) (table : String) (n : Nat) : Prop :=
  (q.path s.dialect).isFallback = false ∧
    ∃ rows, s.reply n (q.sql s.dialect table true) = .ok rows ∧ q.rowCap ≤ rows.length

end Query

/-- What a plan says of a run that sends the statements `added` after `n` others. -/
structure Plan.Foretells (p : Plan) (q : Query) (s : Source) (table : String) (n : Nat)
    (added : List String) : Prop where
  path : p.path = q.path s.dialect
  sql : p.sql = (q.firstStatement s.dialect table).text s.dialect
  limit : (q.firstStatement s.dialect table).limit? =
    if p.path.isFallback then none else some q.rowCap
  counted : q.FillsCap s table n → added = [p.sql, q.countSql s.dialect table]
  uncounted : ¬q.FillsCap s table n → added = [p.sql]

namespace Query

variable {q : Query} {s : Source} {table : String} (sent : List String)

theorem limit?_statement (capped : Bool) :
    (q.statement table capped).limit? = if capped then some q.rowCap else none := by
  unfold statement
  split <;> rfl

theorem limit?_firstStatement (d : Dialect) :
    (q.firstStatement d table).limit? = if (q.path d).isFallback then none else some q.rowCap := by
  unfold firstStatement
  split
  · exact limit?_statement false
  · exact limit?_statement true

theorem sql_plan (d : Dialect) : (q.plan d table).sql = (q.firstStatement d table).text d := by
  unfold plan firstStatement
  split <;> rfl

section Statements

theorem sentAfter_runFallback :
    (q.runFallback s table).sentAfter sent = sent ++ [q.rawSql s.dialect table] := by
  rw [runFallback, Session.sentAfter_bind, Source.result_fetch, Source.sentAfter_fetch]
  cases s.reply sent.length (q.rawSql s.dialect table) <;> rfl

theorem sentAfter_runNative :
    (q.runNative s table).sentAfter sent =
      match s.reply sent.length (q.sql s.dialect table true) with
      | .error _ => sent ++ [q.sql s.dialect table true]
      | .ok rows =>
        if rows.length < q.rowCap then sent ++ [q.sql s.dialect table true]
        else sent ++ [q.sql s.dialect table true, q.countSql s.dialect table] := by
  rw [runNative, Session.sentAfter_bind, Source.result_fetch, Source.sentAfter_fetch]
  cases s.reply sent.length (q.sql s.dialect table true) with
  | error f => rfl
  | ok rows =>
      dsimp only
      split
      · rfl
      · rw [Session.sentAfter_bind, Source.sentAfter_fetch, List.append_assoc]
        cases Session.result (s.fetch (q.countSql s.dialect table)) _ <;> rfl

theorem sentAfter_run_native (h : (q.path s.dialect).isFallback = false) :
    (q.run s table).sentAfter sent = (q.runNative s table).sentAfter sent := by
  rw [run, h, if_neg Bool.false_ne_true, ← bind_pure_comp, Session.sentAfter_bind]
  cases (q.runNative s table).result sent <;> rfl

/-- A run sends what its plan says. -/
theorem plan_foretells_run :
    ∃ added, (q.run s table).sentAfter sent = sent ++ added ∧
      (q.plan s.dialect table).Foretells q s table sent.length added := by
  have hl : (q.firstStatement s.dialect table).limit? =
      if (q.plan s.dialect table).path.isFallback then none else some q.rowCap :=
    limit?_firstStatement s.dialect
  cases hp : (q.path s.dialect).isFallback with
  | true =>
      have hsql : q.rawSql s.dialect table = (q.plan s.dialect table).sql := by
        rw [plan, if_pos hp]
      have hn : ¬q.FillsCap s table sent.length := fun hf => by simp [FillsCap, hp] at hf
      rw [run, if_pos hp, sentAfter_runFallback, hsql]
      exact ⟨_, rfl, rfl, sql_plan _, hl, fun hf => absurd hf hn, fun _ => rfl⟩
  | false =>
      have hsql : q.sql s.dialect table true = (q.plan s.dialect table).sql := by
        rw [plan, hp, if_neg Bool.false_ne_true]
      rw [sentAfter_run_native sent hp, sentAfter_runNative]
      cases hr : s.reply sent.length (q.sql s.dialect table true) with
      | error f =>
          have hn : ¬q.FillsCap s table sent.length := fun hf => by simp [FillsCap, hr] at hf
          rw [hsql]
          exact ⟨_, rfl, rfl, sql_plan _, hl, fun hf => absurd hf hn, fun _ => rfl⟩
      | ok rows =>
          have hf : q.FillsCap s table sent.length ↔ q.rowCap ≤ rows.length := by
            simp [FillsCap, hp, hr]
          dsimp only
          rw [hsql]
          split
          · next hlt =>
              exact ⟨_, rfl, rfl, sql_plan _, hl,
                fun h => absurd (hf.mp h) (Nat.not_le.mpr hlt), fun _ => rfl⟩
          · next hge =>
              exact ⟨_, rfl, rfl, sql_plan _, hl, fun _ => rfl,
                fun hn => absurd (hf.mpr (Nat.not_lt.mp hge)) hn⟩

end Statements

section Plans

theorem explain_eq_error_iff {f : Failure} :
    q.explain s table = .error f ↔
      s.schema = .error f ∨ ∃ schema, s.schema = .ok schema ∧ q.check schema table = .error f := by
  unfold explain
  cases s.schema with
  | error e => simp [bind, Except.bind]
  | ok schema => cases hc : q.check schema table <;> simp [bind, Except.bind, pure, Except.pure, hc]

theorem explain_eq_ok_iff {p : Plan} :
    q.explain s table = .ok p ↔
      ∃ schema, s.schema = .ok schema ∧ q.check schema table = .ok () ∧
        q.plan s.dialect table = p := by
  unfold explain
  cases s.schema with
  | error e => simp [bind, Except.bind]
  | ok schema => cases hc : q.check schema table <;> simp [bind, Except.bind, pure, Except.pure, hc]

theorem execute_of_explain_error {f : Failure} (h : q.explain s table = .error f) :
    (q.execute s table).result sent = .error f ∧ (q.execute s table).sentAfter sent = sent := by
  unfold execute
  simp only [Session.result_bind, Session.sentAfter_bind, Session.result_liftM,
    Session.sentAfter_liftM]
  rcases explain_eq_error_iff.mp h with hs | ⟨schema, hs, hc⟩
  · simp [hs]
  · simp [hs, hc]

theorem sentAfter_execute_of_explain_ok {p : Plan} (h : q.explain s table = .ok p) :
    (q.execute s table).sentAfter sent = (q.run s table).sentAfter sent := by
  obtain ⟨schema, hs, hc, -⟩ := explain_eq_ok_iff.mp h
  unfold execute
  simp only [Session.sentAfter_bind, Session.result_liftM, Session.sentAfter_liftM, hs, hc]
  rfl

end Plans

end Query

namespace Service

variable {s : Service} {id table : String} {q : Query}

theorem explain_fst_of_connect {c : Connection} (h : (s.connect id).1 = .ok c) :
    (s.explain id table q).1 = q.explain c.source table := by
  rw [explain, converse_of_ok _ h, Session.result_liftM]

theorem execute_of_connect_error {f : Failure} (h : (s.connect id).1 = .error f) :
    s.execute id table q = (some (.failure f.text), s) := by
  rw [execute, converse_of_error _ h]
  rfl

theorem explain_of_connect_error {f : Failure} (h : (s.connect id).1 = .error f) :
    s.explain id table q = (.error f, s) := by
  rw [explain, converse_of_error _ h]

theorem sentTo_execute {c : Connection} (h : (s.connect id).1 = .ok c) (other : String) :
    (s.execute id table q).2.sentTo other =
      if other = id then (q.execute c.source table).sentAfter (s.sentTo id)
      else s.sentTo other :=
  sentTo_converse (fun source => q.execute source table) h other

theorem sentTo_explain (other : String) :
    (s.explain id table q).2.sentTo other = s.sentTo other := by
  cases h : (s.connect id).1 with
  | error f => rw [explain_of_connect_error h]
  | ok c =>
      rw [explain, sentTo_converse _ h, Session.sentAfter_liftM, ite_sentTo]

theorem connect_explain : ((s.explain id table q).2.connect id).1 = (s.connect id).1 := by
  cases h : (s.connect id).1 with
  | error f => rw [explain_of_connect_error h, h]
  | ok c =>
      rw [explain, connect_converse _ h, Connection.after, Session.sentAfter_liftM]

theorem execute_of_explain_error {f : Failure} (h : (s.explain id table q).1 = .error f) :
    (s.execute id table q).1 = some (.failure f.text) ∧
      ∀ other, (s.execute id table q).2.sentTo other = s.sentTo other := by
  cases hc : (s.connect id).1 with
  | error e =>
      rw [explain_of_connect_error hc] at h
      obtain rfl := Except.error.inj h
      rw [execute_of_connect_error hc]
      exact ⟨rfl, fun _ => rfl⟩
  | ok c =>
      rw [explain_fst_of_connect hc] at h
      obtain ⟨hr, hs⟩ := Query.execute_of_explain_error (s.sentTo id) h
      constructor
      · rw [execute_fst, hc]
        dsimp only
        rw [sent_of_connect hc, hr]
        rfl
      · intro other
        rw [sentTo_execute hc, hs, ite_sentTo]

theorem execute_of_explain_ok {p : Plan} (h : (s.explain id table q).1 = .ok p) :
    ∃ c added, (s.connect id).1 = .ok c ∧
      p.Foretells q c.source table (s.sentTo id).length added ∧
      ∀ other, (s.execute id table q).2.sentTo other =
        if other = id then s.sentTo id ++ added else s.sentTo other := by
  cases hc : (s.connect id).1 with
  | error e =>
      rw [explain_of_connect_error hc] at h
      cases h
  | ok c =>
      rw [explain_fst_of_connect hc] at h
      obtain ⟨schema, -, -, rfl⟩ := Query.explain_eq_ok_iff.mp h
      obtain ⟨added, ha, hf⟩ := Query.plan_foretells_run (q := q) (s := c.source) (s.sentTo id)
      refine ⟨c, added, rfl, hf, fun other => ?_⟩
      rw [sentTo_execute hc, Query.sentAfter_execute_of_explain_ok _ h, ha]

theorem sentTo_execute_explain (other : String) :
    ((s.explain id table q).2.execute id table q).2.sentTo other =
      (s.execute id table q).2.sentTo other := by
  cases h : (s.connect id).1 with
  | error f => rw [explain_of_connect_error h]
  | ok c =>
      rw [sentTo_execute (connect_explain.trans h), sentTo_execute h, sentTo_explain,
        sentTo_explain]

end Service

/-- A query without a plan is answered with the reason and has nothing sent. With a plan, the run
sends the plan's statement first: the fetch of all raw rows on a fallback path, the capped statement
otherwise. The count statement follows exactly if the rows of a native run fill the cap, and nothing
else does. To explain the query first sends nothing and changes neither its answer nor what is
sent. -/
theorem explanation_holds (s : Service) (id table : String) (q : Query) :
    (match (s.explain id table q).1 with
      | .error f =>
        (s.execute id table q).1 = some (.failure f.text) ∧
          ∀ other, (s.execute id table q).2.sentTo other = s.sentTo other
      | .ok p =>
        ∃ c added, (s.connect id).1 = .ok c ∧
          p.Foretells q c.source table (s.sentTo id).length added ∧
          ∀ other, (s.execute id table q).2.sentTo other =
            if other = id then s.sentTo id ++ added else s.sentTo other) ∧
      (∀ other, (s.explain id table q).2.sentTo other = s.sentTo other) ∧
      ((s.explain id table q).2.execute id table q).1 = (s.execute id table q).1 ∧
      ∀ other, ((s.explain id table q).2.execute id table q).2.sentTo other =
        (s.execute id table q).2.sentTo other := by
  refine ⟨?_, Service.sentTo_explain, ?_, Service.sentTo_execute_explain⟩
  · cases h : (s.explain id table q).1 with
    | error f => exact Service.execute_of_explain_error h
    | ok p => exact Service.execute_of_explain_ok h
  · rw [Service.execute_fst, Service.execute_fst, Service.connect_explain]

end TableQuery
