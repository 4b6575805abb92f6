import Mathlib.Algebra.BigOperators.Ring.List
import Mathlib.Algebra.Order.Floor.Semiring
import Mathlib.Data.Rat.Floor
import TableQuery.Proofs.Rows.CellNumbers
import TableQuery.Rows.Arithmetic

namespace TableQuery

namespace Arithmetic

instance : Arithmetic ℚ where
  ofNat n := n
  emptySum := 0
  isZero x := x = 0
  isFraction x := 0 ≤ x && x ≤ 1
  floor x := ⌊x⌋₊
  ceil x := ⌈x⌉₊

theorem sum_eq (xs : List ℚ) : sum xs = xs.sum := List.sum_eq_foldl.symm

def present {α : Type} (xs : List (Option α)) : List α := xs.filterMap id

section Present

variable {α β : Type}

@[simp]
theorem present_nil : present ([] : List (Option α)) = [] := rfl

@[simp]
theorem present_cons_none (xs : List (Option α)) : present (none :: xs) = present xs := rfl

@[simp]
theorem present_cons_some (x : α) (xs : List (Option α)) :
    present (some x :: xs) = x :: present xs := rfl

theorem present_map (f : α → β) (xs : List (Option α)) :
    present (xs.map fun x => x.map f) = (present xs).map f := by
  rw [present, present, List.filterMap_map, List.map_filterMap]
  rfl

end Present

section Running

variable {α : Type} [Arithmetic α] {xs : List (Option α)} {pos : Nat}

/-- Along the places the total and the count are those of the numbers so far. -/
theorem getElem?_running (total : α) (count : Nat) (h : pos < xs.length) :
    (running total count xs)[pos]? = some ((present (xs.take (pos + 1))).foldl (· + ·) total,
      count + (present (xs.take (pos + 1))).length) := by
  induction xs generalizing total count pos with
  | nil => cases h
  | cons x xs ih =>
      cases pos with
      | zero => cases x <;> simp [running]
      | succ pos =>
          have hpos := Nat.lt_of_succ_lt_succ h
          cases x with
          | none => simpa [running] using ih total count hpos
          | some x =>
              rw [running, List.getElem?_cons_succ, ih (total + x) (count + 1) hpos,
                List.take_succ_cons, present_cons_some, List.foldl_cons, List.length_cons]
              congr 2
              exact Nat.add_right_comm ..

end Running

section Shares

theorem shares_of_isZero {α : Type} [Arithmetic α] {xs : List (Option α)}
    (h : isZero (sum (present xs)) = true) : shares xs = xs.map fun _ => none := by
  rw [present] at h
  simp only [shares, h, if_true]

theorem shares_of_not_isZero {α : Type} [Arithmetic α] {xs : List (Option α)}
    (h : ¬isZero (sum (present xs)) = true) :
    shares xs = xs.map fun x => x.map (· / sum (present xs)) := by
  rw [present] at h ⊢
  simp only [shares, h]
  rfl

variable {xs : List (Option ℚ)}

theorem isZero_sum_iff (ys : List ℚ) : isZero (sum ys) = true ↔ ys.sum = 0 := by
  rw [sum_eq]
  exact decide_eq_true_iff

theorem shares_of_zero (h : (present xs).sum = 0) : shares xs = xs.map fun _ => none :=
  shares_of_isZero ((isZero_sum_iff _).mpr h)

theorem shares_of_ne_zero (h : (present xs).sum ≠ 0) :
    shares xs = xs.map fun x => x.map (· / (present xs).sum) := by
  rw [← sum_eq]
  exact shares_of_not_isZero fun hz => h ((isZero_sum_iff _).mp hz)

theorem sum_present_shares (h : (present xs).sum ≠ 0) : (present (shares xs)).sum = 1 := by
  simp only [shares_of_ne_zero h, present_map, div_eq_mul_inv, List.sum_map_mul_right, List.map_id']
  exact mul_inv_cancel₀ h

end Shares

end Arithmetic

namespace Cell

/-- The number that a cell is read as, before it is rounded. -/
def exactNumber? (j : Json) : Option ℚ := (number? j).bind fun _ => value? j

theorem exactNumber?_eq_none_iff {j : Json} : exactNumber? j = none ↔ number? j = none := by
  cases hn : number? j with
  | none => simp [exactNumber?, hn]
  | some x =>
      obtain ⟨v, hv⟩ := Option.isSome_iff_exists.mp (isSome_value? (by rw [hn]; rfl))
      simp [exactNumber?, hn, hv]

end Cell
end TableQuery
