import TableQuery.Proofs.Rows.IndependentWindows
import TableQuery.Proofs.Rows.LostWeeks

namespace TableQuery

theorem sortRows?_perm {orderBy : List OrderTerm} {rows sorted : List Row}
    (h : sortRows? orderBy rows = some sorted) : sorted.Perm rows := by
  unfold sortRows? at h
  split at h
  · obtain rfl := Option.some.inj h
    exact .refl rows
  · exact Sorting.sort?_perm h

theorem sortRows?_eq_none {orderBy : List OrderTerm} {rows : List Row}
    (h : sortRows? orderBy rows = none) : Sorting.insertionLength < rows.length ∧
      ¬TransitiveOn (fun a b => Row.compareOn a b orderBy) rows := by
  unfold sortRows? at h
  split at h
  · cases h
  · exact Sorting.not_transitive_of_sort?_eq_none h

/-- Rows that are sorted, by insertion or in a transitive order. -/
def Sortable (orderBy : List OrderTerm) (rows : List Row) : Prop :=
  rows.length ≤ Sorting.insertionLength ∨
    TransitiveOn (fun a b => Row.compareOn a b orderBy) rows

namespace Query

variable {q : Query} {raw : List Row}

/-- What keeps raw rows from having a page. -/
inductive LosesPage (q : Query) (raw : List Row) : Prop
  | week {r : Row} (hr : r ∈ raw) (h : q.LosesWeek r)
  | window {base : List Row} (hb : q.baseRows? raw = some base) {w : WindowField}
      (hw : w ∈ q.windows) {key : String} (h : w.BreaksOffAt base key)
  | order {rows : List Row} (hi : q.interpret? raw = some rows)
      (h : sortRows? q.orderBy rows = none)

/-- All weeks are in the calendar, all orders are found, and no window leads to a place that is no
word. -/
structure Regular (q : Query) (raw : List Row) : Prop where
  weeks : ∀ r ∈ raw, ¬q.LosesWeek r
  windows : ∀ base, q.baseRows? raw = some base → ∀ w ∈ q.windows, Sortable w.orderBy base ∧
    (w.function = .lead → base.length + w.distance ≤ UInt64.size)
  order : ∀ rows, q.interpret? raw = some rows → Sortable q.orderBy rows

theorem Regular.not_losesPage (h : q.Regular raw) : ¬q.LosesPage raw := by
  intro hl
  cases hl with
  | week hr hw => exact h.weeks _ hr hw
  | @window base hb w hw key hk =>
      obtain ⟨hs, hlead⟩ := h.windows base hb w hw
      obtain ⟨cells, hc⟩ := WindowField.exists_evaluate? hs hlead
      rw [WindowField.evaluate?_eq_none_iff.mpr ⟨key, hk⟩] at hc
      cases hc
  | order hi hs =>
      obtain ⟨hlong, hn⟩ := sortRows?_eq_none hs
      exact (h.order _ hi).elim hlong.not_ge hn

section Accepted

variable {s : Scope} (hc : q.checkIn s = .ok ())

include hc

theorem interpret?_eq_none_iff :
    q.interpret? raw = none ↔ (∃ r ∈ raw, q.LosesWeek r) ∨
      ∃ base, q.baseRows? raw = some base ∧ ∃ w ∈ q.windows, ∃ key, w.BreaksOffAt base key := by
  have hread : ∀ w ∈ q.windows, ∀ v ∈ q.windows, w.label ∉ v.columnsRead := fun w hw v hv hl =>
    (nodup_labels hc).2 _ (columnsRead_subset hc hv hl) (List.mem_map_of_mem hw)
  rw [← baseRows?_eq_none_iff, interpret?]
  cases q.baseRows? raw with
  | none => simp
  | some base =>
      simp only [Option.bind_some, WindowField.addAll?_eq_none_iff hread,
        WindowField.evaluate?_eq_none_iff]
      simp

/-- The windows of an accepted query are evaluated on the base rows. -/
theorem losesPage_iff : q.LosesPage raw ↔ (q.interpret? raw).bind q.finalize? = none := by
  constructor
  · intro h
    cases h with
    | week hr hw => rw [(interpret?_eq_none_iff hc).mpr (.inl ⟨_, hr, hw⟩), Option.bind_none]
    | window hb hw hk =>
        rw [(interpret?_eq_none_iff hc).mpr (.inr ⟨_, hb, _, hw, _, hk⟩), Option.bind_none]
    | order hi hs => rw [hi, Option.bind_some, finalize?, hs, Option.map_none]
  · intro h
    cases hi : q.interpret? raw with
    | none =>
        rcases (interpret?_eq_none_iff hc).mp hi with ⟨r, hr, hw⟩ | ⟨base, hb, w, hw, key, hk⟩
        · exact .week hr hw
        · exact .window hb hw hk
    | some rows =>
        rw [hi, Option.bind_some, finalize?, Option.map_eq_none_iff] at h
        exact .order hi h

end Accepted

end Query
end TableQuery
