import Mathlib.Data.List.Nodup
import Mathlib.Tactic.Common
import TableQuery.Validation.Query

namespace TableQuery

section Except

variable {ε α β : Type}

theorem except_bind_eq_ok {x : Except ε Unit} {f : Unit → Except ε β} {b : β} :
    (x >>= f) = .ok b ↔ x = .ok () ∧ f () = .ok b := by
  cases x <;> simp [bind, Except.bind]

theorem except_exists_of_bind {x : Except ε α} {f : α → Except ε β} {b : β}
    (h : x >>= f = .ok b) : ∃ a, x = .ok a ∧ f a = .ok b := by
  cases x with
  | error e => cases h
  | ok a => exact ⟨a, rfl, h⟩

theorem except_unless_eq_ok {c : Prop} [Decidable c] {e : ε} {f : Unit → Except ε β} {b : β} :
    (if c then .error e >>= f else f ()) = .ok b ↔ ¬c ∧ f () = .ok b := by
  by_cases hc : c <;> simp [hc, bind, Except.bind]

theorem except_forM_eq_ok {xs : List α} {f : α → Except ε Unit} :
    xs.forM f = .ok () ↔ ∀ x ∈ xs, f x = .ok () := by
  induction xs with
  | nil => simp [List.forM, pure, Except.pure]
  | cons x xs ih =>
      change (f x >>= fun _ => xs.forM f) = _ ↔ _
      rw [except_bind_eq_ok, ih, List.forall_mem_cons]

theorem except_mapError_eq_ok {ε' : Type} {x : Except ε α} {g : ε → ε'} {a : α} :
    x.mapError g = .ok a ↔ x = .ok a := by
  cases x <;> simp [Except.mapError]

theorem except_isOk_iff {x : Except ε Unit} : x.isOk = true ↔ x = .ok () := by
  cases x <;> simp [Except.isOk, Except.toBool]

end Except

theorem firstRepeated_eq_none_iff (seen names : List String) :
    firstRepeated seen names = none ↔ names.Nodup ∧ ∀ name ∈ names, name ∉ seen := by
  induction names generalizing seen with
  | nil => simp [firstRepeated]
  | cons name rest ih =>
      by_cases hs : name ∈ seen
      · simp [firstRepeated, hs]
      · have hf : firstRepeated seen (name :: rest) = firstRepeated (name :: seen) rest := by
          simp [firstRepeated, hs]
        rw [hf, ih, List.nodup_cons]
        constructor
        · rintro ⟨hn, hr⟩
          refine ⟨⟨fun hm => hr name hm (by simp), hn⟩, ?_⟩
          intro other ho
          rcases List.mem_cons.mp ho with rfl | ho
          · exact hs
          · exact fun hm => hr other ho (by simp [hm])
        · rintro ⟨⟨hm, hn⟩, hr⟩
          refine ⟨hn, fun other ho => ?_⟩
          rw [List.mem_cons, not_or]
          exact ⟨fun he => hm (he ▸ ho), hr other (by simp [ho])⟩

theorem checkOutput_eq_ok_iff {outputs : List String} {context : NameContext} {field : String} :
    checkOutput outputs context field = .ok () ↔ outputName field ∈ outputs := by
  by_cases hm : outputName field ∈ outputs <;> simp [checkOutput, hm]

namespace WindowField

theorem check_eq_ok_iff {columns : List String} {w : WindowField} :
    w.check columns = .ok () ↔
      (∀ field, w.field = some field → outputName field ∈ columns) ∧
        (w.field = none → w.function.requiresField = false) ∧
        (∀ field ∈ w.partitionBy, outputName field ∈ columns) ∧
        ∀ t ∈ w.orderBy, outputName t.field ∈ columns := by
  unfold check
  cases hf : w.field with
  | none =>
      simp only [except_unless_eq_ok, except_bind_eq_ok, except_forM_eq_ok, checkOutput_eq_ok_iff]
      simp
  | some field =>
      simp only [except_bind_eq_ok, except_forM_eq_ok, checkOutput_eq_ok_iff]
      simp

end WindowField

namespace Query

theorem checkIn_eq_ok_iff {q : Query} {s : Scope} :
    q.checkIn s = .ok () ↔
      q.select ≠ [] ∧ (∀ f ∈ q.select, s.checkSelect f = .ok ()) ∧
        (∀ g ∈ q.groupBy, s.check g.field .groupBy = .ok ()) ∧
        (∀ f ∈ q.filter, s.check f.field .filter = .ok ()) ∧
        q.outputColumns.Nodup ∧
        (∀ f ∈ q.having, outputName f.field ∈ q.baseColumns) ∧
        (∀ w ∈ q.windows, w.check q.baseColumns = .ok ()) ∧
        ∀ t ∈ q.orderBy, q.checkOrder s t = .ok () := by
  have hr : firstRepeated [] q.outputColumns = none ↔ q.outputColumns.Nodup := by
    simp [firstRepeated_eq_none_iff]
  unfold checkIn
  cases hn : firstRepeated [] q.outputColumns with
  | none =>
      simp only [except_unless_eq_ok, except_bind_eq_ok, except_forM_eq_ok, checkOutput_eq_ok_iff]
      simp [hr.mp hn]
  | some name =>
      have hd : ¬q.outputColumns.Nodup := fun h => by simp [hr.mpr h] at hn
      simp only [except_unless_eq_ok, except_bind_eq_ok, except_forM_eq_ok]
      simp [hd]

theorem exists_checkIn_of_checkTable {q : Query} {t : Table} (h : q.checkTable t = .ok ()) :
    ∃ s, q.checkIn s = .ok () := by
  unfold checkTable at h
  split at h
  · exact ⟨_, h⟩
  · cases h

theorem exists_checkIn_of_checkSchema {q : Query} {schema : Schema} {base : String}
    (h : q.checkSchema schema base = .ok ()) : ∃ s, q.checkIn s = .ok () := by
  unfold checkSchema at h
  split at h
  · cases h
  · next t _ =>
      cases hj : Scope.ofJoins schema t q.join with
      | error e => simp [hj, bind, Except.bind] at h
      | ok s => exact ⟨s, by simpa [hj, bind, Except.bind] using h⟩

theorem checkOrder_eq_ok_iff {q : Query} {s : Scope} (h : q.ordersOutputs = true) {t : OrderTerm} :
    q.checkOrder s t = .ok () ↔ outputName t.field ∈ q.outputColumns := by
  rw [checkOrder, if_pos h, checkOutput_eq_ok_iff]

end Query
end TableQuery
