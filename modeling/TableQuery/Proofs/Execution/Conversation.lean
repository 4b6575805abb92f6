import TableQuery.Proofs.Validation.Acceptance
import TableQuery.Service.Basic

namespace TableQuery

namespace Session

variable {α β : Type}

def result (talk : Session α) (sent : List String) : Except Failure α := (talk.run sent).1

def sentAfter (talk : Session α) (sent : List String) : List String := (talk.run sent).2

variable {talk : Session α} {sent : List String}

theorem result_bind (next : α → Session β) :
    result (talk >>= next) sent =
      match result talk sent with
      | .ok a => result (next a) (sentAfter talk sent)
      | .error f => .error f := by
  unfold result sentAfter
  change (ExceptT.bindCont next (talk.run sent).1 (talk.run sent).2).1 = _
  cases (talk.run sent).1 <;> rfl

theorem sentAfter_bind (next : α → Session β) :
    sentAfter (talk >>= next) sent =
      match result talk sent with
      | .ok a => sentAfter (next a) (sentAfter talk sent)
      | .error _ => sentAfter talk sent := by
  unfold result sentAfter
  change (ExceptT.bindCont next (talk.run sent).1 (talk.run sent).2).2 = _
  cases (talk.run sent).1 <;> rfl

theorem result_bind_eq_ok_iff {next : α → Session β} {b : β} :
    result (talk >>= next) sent = .ok b ↔
      ∃ a, result talk sent = .ok a ∧ result (next a) (sentAfter talk sent) = .ok b := by
  rw [result_bind]
  cases result talk sent <;> simp

theorem result_pure_eq_ok_iff {a b : α} : result (pure a) sent = .ok b ↔ a = b := by
  constructor
  · intro h
    exact Except.ok.inj h
  · rintro rfl
    rfl

theorem result_map_eq_ok_iff {g : α → β} {b : β} :
    result (g <$> talk) sent = .ok b ↔ ∃ a, result talk sent = .ok a ∧ g a = b := by
  rw [← bind_pure_comp, result_bind_eq_ok_iff]
  simp only [result_pure_eq_ok_iff]

theorem result_liftM (x : Except Failure α) : result (liftM x) sent = x := by
  cases x <;> rfl

theorem sentAfter_liftM (x : Except Failure α) : sentAfter (liftM x) sent = sent := by
  cases x <;> rfl

theorem result_adapt_eq_ok_iff {g : Failure → Failure} {a : α} :
    result (ExceptT.adapt g talk) sent = .ok a ↔ result talk sent = .ok a :=
  except_mapError_eq_ok

end Session

namespace Source

variable {s : Source} {sql : String} {sent : List String}

def reply (s : Source) (n : Nat) (sql : String) : Except Failure (List Row) :=
  match s.answer n sql with
  | .error f => .error f
  | .ok rows =>
    match reportedFailure? rows with
    | some message => .error ⟨.engine, message⟩
    | none => .ok rows

theorem reply_eq_ok_iff {n : Nat} {rows : List Row} :
    s.reply n sql = .ok rows ↔ s.answer n sql = .ok rows ∧ reportedFailure? rows = none := by
  unfold reply
  cases s.answer n sql with
  | error f => simp
  | ok answered => cases hr : reportedFailure? answered <;> grind

theorem result_send : (s.send sql).result sent = s.answer sent.length sql := rfl

theorem sentAfter_send : (s.send sql).sentAfter sent = sent ++ [sql] := rfl

theorem result_fetch : (s.fetch sql).result sent = s.reply sent.length sql := by
  rw [fetch, Session.result_bind, result_send, reply]
  cases s.answer sent.length sql with
  | error f => rfl
  | ok rows =>
      dsimp only
      cases reportedFailure? rows <;> rfl

theorem sentAfter_fetch : (s.fetch sql).sentAfter sent = sent ++ [sql] := by
  rw [fetch, Session.sentAfter_bind, result_send, sentAfter_send]
  cases s.answer sent.length sql with
  | error f => rfl
  | ok rows =>
      dsimp only
      cases reportedFailure? rows <;> rfl

end Source

namespace Query

variable {q : Query} {s : Source} {table : String} {sent : List String}

theorem runNative_eq_ok_iff {p : Page} :
    (q.runNative s table).result sent = .ok p ↔
      ∃ rows, s.reply sent.length (q.sql s.dialect table true) = .ok rows ∧
        if rows.length < q.rowCap then q.page rows rows.length = p
        else
          ∃ counted, s.reply (sent.length + 1) (q.countSql s.dialect table) = .ok counted ∧
            q.page rows (max ((countOf? counted).getD rows.length) rows.length) = p := by
  rw [runNative, Session.result_bind_eq_ok_iff, Source.result_fetch, Source.sentAfter_fetch]
  refine exists_congr fun rows => and_congr_right fun _ => ?_
  split
  · exact Session.result_pure_eq_ok_iff
  · simp only [Session.result_bind_eq_ok_iff, Source.result_fetch, List.length_append,
      List.length_singleton, Session.result_pure_eq_ok_iff]

theorem runFallback_eq_ok_iff {page? : Option Page} :
    (q.runFallback s table).result sent = .ok page? ↔
      ∃ raw, s.reply sent.length (q.rawSql s.dialect table) = .ok raw ∧
        (q.interpret? raw).bind q.finalize? = page? := by
  simp only [runFallback, Session.result_bind_eq_ok_iff, Source.result_fetch,
    Session.result_pure_eq_ok_iff]

theorem execute_eq_ok_iff {page? : Option Page} :
    (q.execute s table).result sent = .ok page? ↔
      ∃ schema, s.schema = .ok schema ∧ q.check schema table = .ok () ∧
        (q.run s table).result sent = .ok page? := by
  simp only [execute, Session.result_bind_eq_ok_iff, Session.result_liftM, Session.sentAfter_liftM,
    Session.result_adapt_eq_ok_iff]
  constructor
  · rintro ⟨schema, hs, _, hc, hr⟩
    exact ⟨schema, hs, hc, hr⟩
  · rintro ⟨schema, hs, hc, hr⟩
    exact ⟨schema, hs, (), hc, hr⟩

end Query

namespace Service

variable (s : Service) (id : String)

theorem converse_fst {α : Type} (talk : Source → Session α) :
    (s.converse id talk).1 =
      match (s.connect id).1 with
      | .error f => .error f
      | .ok c => (talk c.source).result c.sent := by
  unfold converse
  rcases s.connect id with ⟨c | c, s⟩ <;> rfl

theorem execute_fst (table : String) (q : Query) :
    (s.execute id table q).1 =
      Outcome.ofRun? (match (s.connect id).1 with
        | .error f => .error f
        | .ok c => (q.execute c.source table).result c.sent) := by
  rw [← s.converse_fst id fun source => q.execute source table]
  rfl

end Service
end TableQuery
