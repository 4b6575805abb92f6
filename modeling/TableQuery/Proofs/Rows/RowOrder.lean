import TableQuery.Proofs.Rows.CellOrder
import TableQuery.Rows.Row

namespace TableQuery

open Cell (compareDirected NumbersFollowTexts present)

namespace Row

theorem compareOn_swap (a b : Row) (orderBy : List OrderTerm) :
    compareOn b a orderBy = (compareOn a b orderBy).swap := by
  induction orderBy with
  | nil => rfl
  | cons t rest ih =>
      simp only [compareOn, Ordering.swap_then]
      rw [ih, Cell.compareDirected_swap]

instance (name : String) (d : Direction) :
    Std.OrientedCmp fun a b : Row => compareDirected (a.get? name) (b.get? name) d where
  eq_swap := Cell.compareDirected_swap _ _ d

def column (rows : List Row) (field : String) : List (Option Json) :=
  rows.map fun r => r.get? (outputName field)

theorem compareDirected_transitiveOn_iff (rows : List Row) (field : String) (d : Direction) :
    TransitiveOn
        (fun a b => compareDirected (a.get? (outputName field)) (b.get? (outputName field)) d)
        rows ↔
      NumbersFollowTexts (present (column rows field)) := by
  rw [column, ← Cell.compareDirected_transitiveOn_iff _ d, ← TransitiveOn.map_iff]

theorem compareOn_transitiveOn {rows : List Row} {orderBy : List OrderTerm}
    (h : ∀ t ∈ orderBy, NumbersFollowTexts (present (column rows t.field))) :
    TransitiveOn (fun a b => compareOn a b orderBy) rows := by
  induction orderBy with
  | nil => exact fun _ _ _ _ _ _ _ _ => rfl
  | cons t rest ih =>
      obtain ⟨ht, hr⟩ := List.forall_mem_cons.mp h
      have hf := (compareDirected_transitiveOn_iff rows t.field t.direction).mpr ht
      exact hf.lexicographic (ih hr)

theorem compareOn_singleton (a b : Row) (t : OrderTerm) :
    compareOn a b [t] =
      compareDirected (a.get? (outputName t.field)) (b.get? (outputName t.field)) t.direction := by
  simp [compareOn]

end Row

/-- Every sort takes two items in either order alike. It is transitive on cells exactly if numbers
with a text between them stand as their texts do, and on rows under every list of terms over some
fields exactly if that holds of each of their columns. -/
theorem sort_order_preorder_iff (d : Direction) (cells : List (Option Json)) (rows : List Row)
    (fields : List String) :
    (∀ x y, compareDirected y x d = (compareDirected x y d).swap) ∧
      (TransitiveOn (fun x y => compareDirected x y d) cells ↔ NumbersFollowTexts (present cells)) ∧
      (∀ a b orderBy, Row.compareOn b a orderBy = (Row.compareOn a b orderBy).swap) ∧
      ((∀ orderBy : List OrderTerm, (∀ t ∈ orderBy, t.field ∈ fields) →
          TransitiveOn (fun a b => Row.compareOn a b orderBy) rows) ↔
        ∀ field ∈ fields, NumbersFollowTexts (present (Row.column rows field))) := by
  refine ⟨fun x y => Cell.compareDirected_swap x y d, Cell.compareDirected_transitiveOn_iff cells d,
    Row.compareOn_swap, ?_⟩
  constructor
  · intro h field hf
    have hs := h [⟨field, .asc⟩] (by simpa using hf)
    simp only [Row.compareOn_singleton] at hs
    exact (Row.compareDirected_transitiveOn_iff rows field .asc).mp hs
  · intro h orderBy ho
    exact Row.compareOn_transitiveOn fun t ht => h t.field (ho t ht)

/-- The text `5x` stands between the texts `10` and `9`, and 10 comes after 9. -/
theorem compareDirected_cycle :
    compareDirected (some (.int 10)) (some (.str "5x")) .asc = .lt ∧
      compareDirected (some (.str "5x")) (some (.int 9)) .asc = .lt ∧
      compareDirected (some (.int 10)) (some (.int 9)) .asc = .gt := by
  decide

end TableQuery
