import TableQuery.Proofs.Execution.Explanation
import TableQuery.Proofs.Execution.ResultShape

namespace TableQuery

namespace Source

theorem reportedFailure?_eq_some_iff {rows : List Row} {message : String} :
    reportedFailure? rows = some message ↔ rows = [⟨[(failureColumn, .str message)]⟩] := by
  constructor
  · intro h
    unfold reportedFailure? at h
    split at h
    · next column text =>
        split at h
        · next hc => rw [hc, Option.some.inj h]
        · cases h
    · cases h
  · rintro rfl
    simp [reportedFailure?]

theorem reply_eq_error_iff {s : Source} {n : Nat} {sql : String} {rows : List Row} {f : Failure}
    (h : s.answer n sql = .ok rows) :
    s.reply n sql = .error f ↔
      ∃ message, rows = [⟨[(failureColumn, .str message)]⟩] ∧ f = ⟨.engine, message⟩ := by
  simp only [reply, h, ← reportedFailure?_eq_some_iff]
  cases reportedFailure? rows with
  | none => simp
  | some message => simp [eq_comm]

end Source

namespace Session

variable {α β : Type}

/-- The talk sends a statement, before which `n` others were sent. -/
def Asks (talk : Session α) (sent : List String) (n : Nat) (sql : String) : Prop :=
  sent.length ≤ n ∧ (talk.sentAfter sent)[n]? = some sql

/-- The talk takes no statement back, and it fails exactly as one of its own is replied to. -/
structure FailsAsReplied (s : Source) (talk : Session α) : Prop where
  appends : ∀ sent, sent <+: talk.sentAfter sent
  error_iff : ∀ sent f, talk.result sent = .error f ↔
    ∃ n sql, talk.Asks sent n sql ∧ s.reply n sql = .error f

namespace FailsAsReplied

variable {s : Source}

theorem pure (a : α) : FailsAsReplied s (Pure.pure a : Session α) where
  appends sent := List.prefix_refl sent
  error_iff sent f := by
    constructor
    · intro h
      cases h
    · rintro ⟨n, sql, ⟨hn, hs⟩, -⟩
      have hlt : n < sent.length := (List.getElem?_eq_some_iff.mp hs).1
      exact absurd hlt (Nat.not_lt.mpr hn)

theorem fetch (sql : String) : FailsAsReplied s (s.fetch sql) where
  appends sent := by
    rw [Source.sentAfter_fetch]
    exact List.prefix_append sent [sql]
  error_iff sent f := by
    rw [Source.result_fetch]
    constructor
    · intro h
      exact ⟨sent.length, sql, ⟨Nat.le_refl _, by simp [Source.sentAfter_fetch]⟩, h⟩
    · rintro ⟨n, asked, ⟨hn, hs⟩, hr⟩
      rw [Source.sentAfter_fetch, List.getElem?_append_right hn] at hs
      obtain ⟨hlt, rfl⟩ := List.getElem?_eq_some_iff.mp hs
      obtain rfl : n = sent.length := by simp at hlt; omega
      simpa using hr

section Bind

variable {talk : Session α} {next : α → Session β} (ht : FailsAsReplied s talk)
  (hn : ∀ a, FailsAsReplied s (next a))

include ht in
theorem not_error_of_ok {sent : List String} {a : α} (h : talk.result sent = .ok a) {n : Nat}
    {sql : String} (hs : talk.Asks sent n sql) (f : Failure) : s.reply n sql ≠ .error f := by
  intro hr
  have he := (ht.error_iff sent f).mpr ⟨n, sql, hs, hr⟩
  rw [h] at he
  cases he

include ht hn

theorem bind : FailsAsReplied s (talk >>= next) where
  appends sent := by
    rw [sentAfter_bind]
    cases talk.result sent with
    | error f => exact ht.appends sent
    | ok a => exact (ht.appends sent).trans ((hn a).appends _)
  error_iff sent f := by
    cases hr : talk.result sent with
    | error e =>
        have hb : (talk >>= next).sentAfter sent = talk.sentAfter sent := by
          rw [sentAfter_bind, hr]
        simp only [Asks, hb, result_bind, hr]
        have hf := ht.error_iff sent f
        rw [hr, Except.error.injEq] at hf
        rw [Except.error.injEq]
        exact hf
    | ok a =>
        have hb : (talk >>= next).sentAfter sent = (next a).sentAfter (talk.sentAfter sent) := by
          rw [sentAfter_bind, hr]
        have hp := (hn a).appends (talk.sentAfter sent)
        simp only [Asks, hb, result_bind, hr]
        rw [(hn a).error_iff]
        constructor
        · rintro ⟨n, sql, ⟨hle, hs⟩, he⟩
          exact ⟨n, sql, ⟨(ht.appends sent).length_le.trans hle, hs⟩, he⟩
        · rintro ⟨n, sql, ⟨hle, hs⟩, he⟩
          -- an earlier statement belongs to the first talk, which went well
          by_cases hlt : n < (talk.sentAfter sent).length
          · obtain ⟨_, rfl⟩ := List.getElem?_eq_some_iff.mp hs
            rw [← hp.getElem hlt] at he
            exact absurd he (ht.not_error_of_ok hr ⟨hle, List.getElem?_eq_getElem hlt⟩ f)
          · exact ⟨n, sql, ⟨Nat.not_lt.mp hlt, hs⟩, he⟩

end Bind
end FailsAsReplied
end Session

namespace Query

variable {q : Query} {s : Source} {table : String}

theorem failsAsReplied_runNative : (q.runNative s table).FailsAsReplied s := by
  refine .bind (.fetch _) fun rows => ?_
  split
  · exact .pure _
  · exact .bind (.fetch _) fun counted => .pure _

theorem failsAsReplied_run : (q.run s table).FailsAsReplied s := by
  unfold run
  split
  · exact .bind (.fetch _) fun raw => .pure _
  · rw [← bind_pure_comp]
    exact .bind failsAsReplied_runNative fun page => .pure _

section Accepted

variable {schema : Schema} {sent : List String} (hs : s.schema = .ok schema)
  (hc : q.check schema table = .ok ())

include hs hc

theorem sentAfter_execute :
    (q.execute s table).sentAfter sent = (q.run s table).sentAfter sent :=
  sentAfter_execute_of_explain_ok sent (explain_eq_ok_iff.mpr ⟨schema, hs, hc, rfl⟩)

theorem result_execute :
    (q.execute s table).result sent =
      ((q.run s table).result sent).mapError (Failure.withNames schema table) := by
  unfold execute
  rw [Session.result_bind, Session.result_liftM, Session.sentAfter_liftM, hs]
  dsimp only
  rw [Session.result_bind, Session.result_liftM, Session.sentAfter_liftM, hc]
  rfl

theorem execute_eq_error_iff
    (ha : ∀ n sql, (q.execute s table).Asks sent n sql → ∃ rows, s.answer n sql = .ok rows)
    {f : Failure} :
    (q.execute s table).result sent = .error f ↔
      ∃ n sql message, (q.execute s table).Asks sent n sql ∧
        s.answer n sql = .ok [⟨[(Source.failureColumn, .str message)]⟩] ∧
        f = Failure.withNames schema table ⟨.engine, message⟩ := by
  have hr := (failsAsReplied_run : (q.run s table).FailsAsReplied s).error_iff sent
  have hasks (n : Nat) (sql : String) :
      (q.execute s table).Asks sent n sql ↔ (q.run s table).Asks sent n sql := by
    rw [Session.Asks, sentAfter_execute hs hc, Session.Asks]
  rw [result_execute hs hc]
  constructor
  · intro h
    obtain ⟨g, hg, rfl⟩ : ∃ g, (q.run s table).result sent = .error g ∧
        f = Failure.withNames schema table g := by
      cases hq : (q.run s table).result sent with
      | error g => exact ⟨g, rfl, by simpa [hq, Except.mapError, eq_comm] using h⟩
      | ok page => simp [hq, Except.mapError] at h
    obtain ⟨n, sql, hn, he⟩ := (hr g).mp hg
    obtain ⟨rows, hrows⟩ := ha n sql ((hasks n sql).mpr hn)
    obtain ⟨message, rfl, rfl⟩ := (Source.reply_eq_error_iff hrows).mp he
    exact ⟨n, sql, message, (hasks n sql).mpr hn, hrows, rfl⟩
  · rintro ⟨n, sql, message, hn, hrows, rfl⟩
    have he := (Source.reply_eq_error_iff hrows).mpr ⟨message, rfl, rfl⟩
    rw [(hr _).mpr ⟨n, sql, (hasks n sql).mp hn, he⟩]
    rfl

end Accepted
end Query

namespace Outcome

variable {run : Except Failure (Option Page)}

theorem ofRun?_eq_failure_iff {m : String} :
    ofRun? run = some (.failure m) ↔ ∃ f, run = .error f ∧ m = f.text := by
  rcases run with f | ⟨⟩ | p <;> simp [ofRun?, eq_comm]

theorem ofRun?_eq_success_iff {p : Page} :
    ofRun? run = some (.success p) ↔ run = .ok (some p) := by
  rcases run with f | ⟨⟩ | p <;> simp [ofRun?]

end Outcome

/-- An accepted query whose statements are all answered with rows fails exactly if the rows of one
of them are a single row with nothing but a text under `error`, and that text is then the reason.
Unless the run breaks off, it succeeds in all other cases, whatever its columns are called and its
cells hold. -/
theorem answered_query_succeeds_iff (s : Service) (id table : String) {q : Query}
    {c : Connection} {schema : Schema} (hc : (s.connect id).1 = .ok c)
    (hs : c.source.schema = .ok schema) (hq : q.check schema table = .ok ())
    (ha : ∀ n sql, (q.execute c.source table).Asks c.sent n sql →
      ∃ rows, c.source.answer n sql = .ok rows) :
    (∀ m, (s.execute id table q).1 = some (.failure m) ↔
      ∃ n sql message, (q.execute c.source table).Asks c.sent n sql ∧
        c.source.answer n sql = .ok [⟨[("error", .str message)]⟩] ∧
        m = (Failure.withNames schema table ⟨.engine, message⟩).text) ∧
      (¬q.BreaksOff c.source table c.sent.length →
        ((∃ p, (s.execute id table q).1 = some (.success p)) ↔
          ∀ n sql message, (q.execute c.source table).Asks c.sent n sql →
            c.source.answer n sql ≠ .ok [⟨[("error", .str message)]⟩])) := by
  have hrun : (s.execute id table q).1 =
      Outcome.ofRun? ((q.execute c.source table).result c.sent) := by
    rw [Service.execute_fst, hc]
  have herr (f : Failure) := Query.execute_eq_error_iff hs hq ha (f := f)
  rw [hrun]
  constructor
  · intro m
    rw [Outcome.ofRun?_eq_failure_iff]
    constructor
    · rintro ⟨f, hf, rfl⟩
      obtain ⟨n, sql, message, hn, hrows, rfl⟩ := (herr f).mp hf
      exact ⟨n, sql, message, hn, hrows, rfl⟩
    · rintro ⟨n, sql, message, hn, hrows, rfl⟩
      exact ⟨_, (herr _).mpr ⟨n, sql, message, hn, hrows, rfl⟩, rfl⟩
  · intro hb
    simp only [Outcome.ofRun?_eq_success_iff]
    constructor
    · rintro ⟨p, hp⟩ n sql message hn hrows
      have hf := (herr _).mpr ⟨n, sql, message, hn, hrows, rfl⟩
      rw [hp] at hf
      cases hf
    · intro hall
      rcases hr : (q.execute c.source table).result c.sent with f | ⟨⟩ | p
      · obtain ⟨n, sql, message, hn, hrows, -⟩ := (herr f).mp hr
        exact absurd hrows (hall n sql message hn)
      · exact absurd (Query.execute_eq_none_iff.mp hr) hb
      · exact ⟨p, rfl⟩

def logSource (messages : List String) : Source :=
  .ofAnswers .sqlite (.ok ⟨[⟨"log", [⟨"error", "TEXT", true⟩]⟩], []⟩)
    [.ok (messages.map fun m => ⟨[("error", .str m)]⟩)]

def logService (messages : List String) : Service :=
  (Service.start (.ofFiles ⟨[], []⟩)).attach "log" (logSource messages)

def loggedErrors : Query where
  join := []
  select := [.column "error"]
  groupBy := []
  filter := []
  having := []
  orderBy := []
  limit := none

theorem answer_logSource (messages : List String) (n : Nat) (sql : String) :
    (logSource messages).answer n sql = .ok (messages.map fun m => ⟨[("error", .str m)]⟩) := by
  cases n <;> rfl

theorem logged_messages_shown :
    (∀ n sql, (logSource ["disk full", "timeout"]).answer n sql =
        .ok [⟨[("error", .str "disk full")]⟩, ⟨[("error", .str "timeout")]⟩]) ∧
      ∃ p, ((logService ["disk full", "timeout"]).execute "log" "log" loggedErrors).1 =
        some (.success p) := by
  have ha := answer_logSource ["disk full", "timeout"]
  have h := answered_query_succeeds_iff (logService ["disk full", "timeout"]) "log" "log"
    (q := loggedErrors) (c := ⟨logSource ["disk full", "timeout"], []⟩) rfl rfl rfl
    fun n sql _ => ⟨_, ha n sql⟩
  refine ⟨ha, (h.2 ?_).mpr ?_⟩
  · rintro ⟨schema, raw, -, -, hp, -⟩
    exact absurd hp (by decide)
  · intro n sql message _
    simp [ha]

/-- A single message in the table is taken for a failure of the source that answered with it. -/
theorem logged_message_fails :
    (∀ n sql, (logSource ["disk full"]).answer n sql =
        .ok [⟨[("error", .str "disk full")]⟩]) ∧
      (∃ schema, (logSource ["disk full"]).schema = .ok schema ∧
        loggedErrors.check schema "log" = .ok ()) ∧
      ((logService ["disk full"]).execute "log" "log" loggedErrors).1 =
        some (.failure "Engine error: disk full") :=
  ⟨answer_logSource ["disk full"], ⟨_, rfl, rfl⟩, rfl⟩

end TableQuery
