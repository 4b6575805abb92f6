import Mathlib
import TableQuery.Proofs.Rows.ExtremeCells
import TableQuery.Proofs.Rows.Fractions
import TableQuery.Proofs.Rows.Percentiles
import TableQuery.Proofs.Rows.RoundedPercentiles
import TableQuery.Proofs.Validation.Acceptance

namespace TableQuery

/-- The functions that compute with the numbers of a column. -/
def AggregateFunction.computes : AggregateFunction → Bool
  | .sum | .avg | .stddev => true
  | f => f.isPercentile

namespace Arithmetic

section Figures

variable {α β : Type} [Arithmetic α]

/-- What a function computes from numbers, in an arithmetic with roots and an ascending order. -/
def figure (result : α → β) (root : α → Option β) (ascending : List α → List α)
    (fraction : Option α) (f : AggregateFunction) (xs : List α) : Option β :=
  match f with
  | .sum => if xs.isEmpty then none else some (result (sum xs))
  | .avg => (mean xs).map result
  | .stddev => (variance xs).bind root
  | .median | .p25 | .p75 | .percentile =>
    (fraction.bind (percentile (ascending xs))).map result
  | .count | .countDistinct | .min | .max => none

end Figures

section Exact

variable {xs : List ℚ}

noncomputable def exactRoot (v : ℚ) : Option ℝ := if 0 ≤ v then some (Real.sqrt v) else none

def exactAscending (xs : List ℚ) : List ℚ := xs.mergeSort (· ≤ ·)

noncomputable def exactFigure (fraction : Option ℚ) : AggregateFunction → List ℚ → Option ℝ :=
  figure Rat.cast exactRoot exactAscending fraction

theorem mean_eq_none_iff (xs : List ℚ) : mean xs = none ↔ xs = [] := by
  simp [mean]

theorem variance_nonneg {v : ℚ} (h : variance xs = some v) : 0 ≤ v := by
  obtain ⟨m, -, rfl⟩ := Option.map_eq_some_iff.mp h
  rw [sum_eq]
  refine div_nonneg (List.sum_nonneg ?_) (Nat.cast_nonneg _)
  intro square hs
  obtain ⟨x, -, rfl⟩ := List.mem_map.mp hs
  exact mul_self_nonneg _

theorem bind_variance_eq_none_iff : (variance xs).bind exactRoot = none ↔ xs = [] := by
  rw [← mean_eq_none_iff xs]
  cases hv : variance xs with
  | none => simpa [variance] using hv
  | some v =>
      have hm : mean xs ≠ none := fun hm => by simp [variance, hm] at hv
      simp [exactRoot, variance_nonneg hv, hm]

theorem exactAscending_eq_nil_iff : exactAscending xs = [] ↔ xs = [] := by
  rw [← List.length_eq_zero_iff, exactAscending, List.length_mergeSort, List.length_eq_zero_iff]

theorem exactFigure_eq_none_iff {f : AggregateFunction} {fraction : Option ℚ}
    (hf : f.computes = true)
    (hp : f.isPercentile = true → ∃ p, fraction = some p ∧ isFraction p = true) :
    exactFigure fraction f xs = none ↔ xs = [] := by
  cases f with
  | sum => simp [exactFigure, figure]
  | avg => simp [exactFigure, figure, mean_eq_none_iff]
  | stddev => exact bind_variance_eq_none_iff
  | median | p25 | p75 | percentile =>
      obtain ⟨p, rfl, hfraction⟩ := hp rfl
      have hrange := isFraction_iff.mp hfraction
      change ((some p).bind (percentile (exactAscending xs))).map _ = none ↔ _
      rw [Option.map_eq_none_iff, Option.bind_some, percentile_eq_none_iff,
        exactAscending_eq_nil_iff]
      exact or_iff_left (not_not.mpr hrange)
  | _ => cases hf

end Exact

end Arithmetic

namespace Aggregate

open Arithmetic

/-- What binary64 computes from the cells. -/
def roundedFigure (a : AggregateField) (cells : List Json) : Option Float :=
  figure id (fun v => some v.sqrt) sorted a.fraction a.function (numbers cells)

def exactNumbers (cells : List Json) : List ℚ := cells.filterMap Cell.exactNumber?

section Results

variable {a : AggregateField} {rows : List Row} {cells : List Json}

theorem exactNumbers_eq_nil_iff :
    exactNumbers cells = [] ↔ ∀ j ∈ cells, Cell.number? j = none := by
  rw [exactNumbers, List.filterMap_eq_nil_iff]
  exact forall₂_congr fun j _ => Cell.exactNumber?_eq_none_iff

theorem compute_of_columnCells (hr : a.countsRows = false) :
    compute a rows = ofCells a (columnCells a rows) := by
  simp [compute, columnCells, hr]

theorem ofCells_of_computes (hf : a.function.computes = true) :
    ofCells a cells = numberOrNull (roundedFigure a cells) := by
  cases hf' : a.function with
  | stddev =>
      simp only [ofCells, roundedFigure, hf', figure, stddev]
      cases variance (numbers cells) <;> rfl
  | sum | avg | median | p25 | p75 | percentile =>
      simp only [ofCells, roundedFigure, hf', figure, total, Option.map_id_fun, id]
  | _ =>
      rw [hf'] at hf
      cases hf

theorem numbers_eq_nil_iff : numbers cells = [] ↔ ∀ j ∈ cells, Cell.number? j = none := by
  rw [numbers, List.filterMap_eq_nil_iff]

theorem sorted_eq_nil_iff {xs : List Float} : sorted xs = [] ↔ xs = [] := by
  rw [← List.length_eq_zero_iff, sorted, List.length_mergeSort, List.length_eq_zero_iff]

theorem roundedFigure_eq_none_iff (hf : a.function.computes = true)
    (hl : a.function.isPercentile = true → cells.length ≤ 2 ^ 53)
    (hp : a.function.isPercentile = true →
      ∃ x v, a.fraction = some x ∧ isFraction v = true ∧ RoundsTo v x) :
    roundedFigure a cells = none ↔ ∀ j ∈ cells, Cell.number? j = none := by
  have hlength : (sorted (numbers cells)).length ≤ cells.length := by
    rw [sorted, List.length_mergeSort]
    exact List.length_filterMap_le _ _
  rw [← numbers_eq_nil_iff, roundedFigure]
  cases hf' : a.function with
  | sum => simp [figure]
  | avg => simp [figure, mean]
  | stddev => simp [figure, variance, mean]
  | median | p25 | p75 | percentile =>
      obtain ⟨x, v, hx, hv, hr⟩ := hp (by rw [hf']; rfl)
      have hlong := hlength.trans (hl (by rw [hf']; rfl))
      rw [figure, Option.map_eq_none_iff, hx, Option.bind_some,
        hr.percentile_eq_none_iff hv hlong, sorted_eq_nil_iff]
  | _ =>
      rw [hf'] at hf
      cases hf

theorem distinctCount_le (cells : List Json) : distinctCount cells ≤ cells.length := by
  have hsub : (cells.filterMap Cell.text?).eraseDups ⊆ cells.filterMap Cell.text? :=
    fun _ => List.mem_eraseDups.mp
  exact ((nodup_eraseDups _).subperm hsub).length_le.trans (List.length_filterMap_le _ _)

theorem distinctCount_eq_zero_iff (h : ∀ j ∈ cells, j.isNull = false) :
    distinctCount cells = 0 ↔ cells = [] := by
  constructor
  · intro hz
    rw [List.eq_nil_iff_forall_not_mem]
    intro j hj
    obtain ⟨t, ht⟩ := Cell.exists_text (h j hj)
    have hmem : t ∈ (cells.filterMap Cell.text?).eraseDups :=
      List.mem_eraseDups.mpr (List.mem_filterMap.mpr ⟨j, hj, ht⟩)
    rw [List.length_eq_zero_iff.mp hz] at hmem
    cases hmem
  · rintro rfl
    rfl

theorem columnCells_eq_nil_iff (hr : a.countsRows = false) :
    columnCells a rows = [] ↔
      ∀ r ∈ rows, Cell.isMissing (r.get? (outputName a.field)) = true := by
  rw [columnCells, hr, if_neg Bool.false_ne_true, values, List.filter_eq_nil_iff]
  simp only [List.mem_filterMap, forall_exists_index, and_imp, Bool.not_eq_true,
    Bool.not_eq_false']
  constructor
  · intro h r hr
    cases hg : r.get? (outputName a.field) with
    | none => rfl
    | some j => exact h j r hr hg
  · intro h j r hr hg
    have hm := h r hr
    rwa [hg] at hm

end Results

end Aggregate

theorem Scope.checkAggregate_cases {s : Scope} {a : AggregateField}
    (h : s.checkAggregate a = .ok ()) :
    (a.countsRows = true → a.function = .count) ∧
      (a.function = .percentile → a.fraction.isSome) := by
  unfold checkAggregate at h
  cases hr : a.countsRows with
  | true =>
      rw [hr, if_pos rfl] at h
      by_cases hf : a.function = .count
      · exact ⟨fun _ => hf, fun hp => by rw [hf] at hp; cases hp⟩
      · rw [if_pos hf] at h
        cases h
  | false =>
      rw [hr, if_neg Bool.false_ne_true] at h
      have hlast := (except_bind_eq_ok.mp h).2
      refine ⟨nofun, fun hf => ?_⟩
      rw [← Option.isNone_eq_false_iff, ← Bool.not_eq_true]
      intro hn
      rw [if_pos (by simpa [hf] using hn)] at hlast
      cases hlast

theorem Query.checkAggregate_of_checkIn {q : Query} {s : Scope} (hc : q.checkIn s = .ok ())
    {a : AggregateField} (ha : a ∈ q.aggregates) : s.checkAggregate a = .ok () := by
  obtain ⟨f, hf, hfa⟩ := List.mem_filterMap.mp ha
  have hselect := (checkIn_eq_ok_iff.mp hc).2.1 f hf
  cases f with
  | aggregate b =>
      obtain rfl := Option.some.inj hfa
      exact hselect
  | _ => cases hfa

open Aggregate in
/-- Counts are never null, extremes are null without cells, and what is computed from numbers is
null without numbers, in exact arithmetic as it is written. In binary64 it is null for no other reason
than that it is not finite, up to a length that binary64 can count. A percentile that passes the check
has a fraction from 0 to 1. -/
theorem aggregate_null_iff {q : Query} {s : Scope} (hc : q.checkIn s = .ok ()) {a : AggregateField}
    (ha : a ∈ q.aggregates) (rows : List Row) :
    (a.countsRows = true → a.function = .count ∧ compute a rows = .ofNat rows.length) ∧
      (a.countsRows = false →
        (a.function = .count → compute a rows = .ofNat (columnCells a rows).length) ∧
          (a.function = .countDistinct → ∃ n, compute a rows = .ofNat n ∧
            n ≤ (columnCells a rows).length ∧ (n = 0 ↔ columnCells a rows = [])) ∧
          (a.function = .min ∨ a.function = .max → (compute a rows = .null ↔
            ∀ r ∈ rows, Cell.isMissing (r.get? (outputName a.field)) = true)) ∧
          (a.function.computes = true →
            (Arithmetic.exactFigure a.exactFraction a.function
                (exactNumbers (columnCells a rows)) = none ↔
              ∀ j ∈ columnCells a rows, Cell.number? j = none) ∧
              compute a rows = numberOrNull (roundedFigure a (columnCells a rows)) ∧
                ((a.function.isPercentile = true → (columnCells a rows).length ≤ 2 ^ 53) →
                  (roundedFigure a (columnCells a rows) = none ↔
                    ∀ j ∈ columnCells a rows, Cell.number? j = none) ∧
                    (compute a rows = .null ↔
                      (∀ j ∈ columnCells a rows, Cell.number? j = none) ∨
                        ∃ x, roundedFigure a (columnCells a rows) = some x ∧
                          x.isFinite = false)))) ∧
      (a.function.isPercentile = true → ∃ x v, a.fraction = some x ∧
        Arithmetic.isFraction x = true ∧ a.exactFraction = some v ∧
        Arithmetic.isFraction v = true ∧ RoundsTo v x) := by
  obtain ⟨hrows, hpercentile⟩ :=
    Scope.checkAggregate_cases (Query.checkAggregate_of_checkIn hc ha)
  have hfraction (hf : a.function.isPercentile = true) : ∃ x v, a.fraction = some x ∧
      Arithmetic.isFraction x = true ∧ a.exactFraction = some v ∧
      Arithmetic.isFraction v = true ∧ RoundsTo v x := by
    obtain ⟨x, hx⟩ := Option.isSome_iff_exists.mp (AggregateField.isSome_fraction hf hpercentile)
    obtain ⟨v, hv, hvf, hr⟩ := AggregateField.exists_exactFraction hx
    exact ⟨x, v, hx, hr.isFraction hvf, hv, hvf, hr⟩
  refine ⟨fun hr => ?_, fun hr => ⟨fun hf => ?_, fun hf => ?_, fun hf => ?_, fun hf => ?_⟩,
    hfraction⟩
  · have hf := hrows hr
    exact ⟨hf, by simp [compute, hr, hf, AggregateFunction.isCounting]⟩
  · rw [compute_of_columnCells hr, ofCells, hf]
  · refine ⟨distinctCount (columnCells a rows), ?_, distinctCount_le _,
      distinctCount_eq_zero_iff fun _ => isNull_of_mem_columnCells⟩
    rw [compute_of_columnCells hr, ofCells, hf]
  · rw [extreme_eq_null_iff hf, columnCells_eq_nil_iff hr]
  · have hcompute : compute a rows = numberOrNull (roundedFigure a (columnCells a rows)) := by
      rw [compute_of_columnCells hr, ofCells_of_computes hf]
    refine ⟨?_, hcompute, fun hl => ?_⟩
    · rw [Arithmetic.exactFigure_eq_none_iff hf, exactNumbers_eq_nil_iff]
      intro hp
      obtain ⟨_, v, -, -, hv, hvf, -⟩ := hfraction hp
      exact ⟨v, hv, hvf⟩
    · have hnone := roundedFigure_eq_none_iff hf hl fun hp => by
        obtain ⟨x, v, hx, -, -, hvf, hr⟩ := hfraction hp
        exact ⟨x, v, hx, hvf, hr⟩
      refine ⟨hnone, ?_⟩
      rw [hcompute, numberOrNull_eq_null_iff, hnone]

def ninetieth : AggregateField := ⟨"amount", .percentile, "p90", some ⟨90, by decide +kernel⟩⟩

def ninetiethOfAll : Query where
  join := []
  select := [.aggregate ninetieth]
  groupBy := []
  filter := []
  having := []
  orderBy := []
  limit := none

def mixedAmounts : List Row :=
  [⟨[("amount", .str "n/a")]⟩, ⟨[("amount", .null)]⟩, ⟨[("amount", .str "7")]⟩]

theorem ninetieth_of_amounts :
    ninetiethOfAll.checkIn ⟨⟨"orders", [⟨"amount", "TEXT", true⟩]⟩, []⟩ = .ok () ∧
      ninetieth ∈ ninetiethOfAll.aggregates ∧
      (∃ x, ninetieth.fraction = some x ∧ Arithmetic.isFraction x = true) ∧
      Arithmetic.exactFigure ninetieth.exactFraction .percentile
        (Aggregate.exactNumbers [.str "n/a", .str "7"]) ≠ none ∧
      Aggregate.roundedFigure ninetieth [.str "n/a", .str "7"] ≠ none := by
  have hc : ninetiethOfAll.checkIn ⟨⟨"orders", [⟨"amount", "TEXT", true⟩]⟩, []⟩ = .ok () := by
    rfl
  have ha : ninetieth ∈ ninetiethOfAll.aggregates := List.mem_singleton_self _
  have hcells : Aggregate.columnCells ninetieth mixedAmounts = [.str "n/a", .str "7"] := rfl
  obtain ⟨-, hcolumn, hfraction⟩ := aggregate_null_iff hc ha mixedAmounts
  obtain ⟨-, -, -, hcomputed⟩ := hcolumn rfl
  obtain ⟨x, -, hx, hx', -⟩ := hfraction rfl
  rw [hcells] at hcomputed
  obtain ⟨hexact, -, hrounded⟩ := hcomputed rfl
  have hseven : ¬∀ j ∈ [Json.str "n/a", .str "7"], Cell.number? j = none := fun hnone =>
    absurd (hnone (.str "7") (by simp)) (by decide +kernel)
  refine ⟨hc, ha, ⟨x, hx, hx'⟩, fun hnone => hseven (hexact.mp hnone), fun hnone => hseven ?_⟩
  exact (hrounded fun _ => by decide).1.mp hnone

end TableQuery
