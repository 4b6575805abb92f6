import TableQuery.Proofs.Rows.WholeNumbers
import TableQuery.Proofs.Rows.WindowCells

namespace TableQuery

open Rounding
open Decimal (valueOf)

namespace Arithmetic

/-- A figure of the numbers up to each place, from the first number on. -/
def runningFigures {α : Type} [Arithmetic α] (f : α → Nat → α) (xs : List (Option α)) :
    List (Option α) :=
  (running (ofNat 0) 0 xs).map fun t => if t.2 = 0 then none else some (f t.1 t.2)

section Running

variable {α : Type} [Arithmetic α] {xs : List (Option α)} {pos : Nat}

theorem length_runningFigures (f : α → Nat → α) (xs : List (Option α)) :
    (runningFigures f xs).length = xs.length := by
  rw [runningFigures, List.length_map, length_running]

theorem getElem?_runningFigures (f : α → Nat → α) (h : pos < xs.length) :
    (runningFigures f xs)[pos]? =
      let seen := present (xs.take (pos + 1))
      some (if seen = [] then none else some (f (seen.foldl (· + ·) (ofNat 0)) seen.length)) := by
  rw [runningFigures, List.getElem?_map, getElem?_running _ _ h, Option.map_some]
  simp only [zero_add, List.length_eq_zero_iff]

/-- A place without a number keeps what stands at the place before it. -/
theorem getElem?_runningFigures_of_none (f : α → Nat → α) (h : xs[pos]? = some none) :
    (runningFigures f xs)[pos]? =
      if pos = 0 then some none else (runningFigures f xs)[pos - 1]? := by
  have htake : present (xs.take (pos + 1)) = present (xs.take pos) := by
    rw [List.take_add_one, h, present, List.filterMap_append]
    exact List.append_nil _
  obtain ⟨hpos, -⟩ := List.getElem?_eq_some_iff.mp h
  rw [getElem?_runningFigures f hpos, htake]
  cases pos with
  | zero => rfl
  | succ pos => exact (getElem?_runningFigures f (Nat.lt_of_succ_lt hpos)).symm

theorem runningFigures_eq_map (f : α → Nat → α) (xs : List (Option α)) :
    runningFigures f xs = (List.range xs.length).map fun pos =>
      let seen := present (xs.take (pos + 1))
      if seen = [] then none else some (f (seen.foldl (· + ·) (ofNat 0)) seen.length) := by
  apply List.ext_getElem?
  intro pos
  rw [List.getElem?_map]
  by_cases h : pos < xs.length
  · rw [getElem?_runningFigures f h, List.getElem?_range h, Option.map_some]
  · rw [List.getElem?_eq_none, List.getElem?_eq_none, Option.map_none]
    · rw [List.length_range]
      exact not_lt.mp h
    · rw [length_runningFigures]
      exact not_lt.mp h

theorem exactFigures_eq_map (f : ℚ → Nat → ℚ) (xs : List (Option ℚ)) :
    runningFigures f xs = (List.range xs.length).map fun pos =>
      let seen := present (xs.take (pos + 1))
      if seen = [] then none else some (f seen.sum seen.length) := by
  have hsum (ys : List ℚ) : ys.foldl (fun a b => Add.add a b) (ofNat 0) = ys.sum := sum_eq ys
  rw [runningFigures_eq_map]
  apply List.map_congr_left
  intro pos _
  exact ite_congr rfl (fun _ => rfl) fun _ => by rw [← hsum]; rfl

theorem getElem?_exactFigures {xs : List (Option ℚ)} (f : ℚ → Nat → ℚ) (h : pos < xs.length) :
    (runningFigures f xs)[pos]? =
      let seen := present (xs.take (pos + 1))
      some (if seen = [] then none else some (f seen.sum seen.length)) := by
  rw [exactFigures_eq_map, List.getElem?_map, List.getElem?_range h, Option.map_some]

theorem length_shares (xs : List (Option α)) : (shares xs).length = xs.length := by
  rw [shares, List.length_map]

end Running

end Arithmetic

namespace WindowField

open Arithmetic

/-- Windows that calculate with the numbers of a partition. -/
def calculates (w : WindowField) : Bool :=
  w.function = .runningSum || w.function = .runningAvg || w.function = .pctOfTotal

variable {α : Type}

def numbersOf (w : WindowField) (read : Json → Option α) (sorted : List Row) : List (Option α) :=
  sorted.map fun r => (w.sourceCell r).bind read

/-- What a window that calculates makes of the numbers, none where there is no result. -/
def figures [Arithmetic α] (w : WindowField) (xs : List (Option α)) : List (Option α) :=
  match w.function with
  | .runningSum => runningFigures (fun total _ => total) xs
  | .runningAvg => runningFigures (fun total count => total / ofNat count) xs
  | .pctOfTotal => shares xs
  | _ => []

section Figures

variable [Arithmetic α] {w : WindowField} {xs : List (Option α)}

theorem figures_runningSum (hf : w.function = .runningSum) :
    w.figures xs = runningFigures (fun total _ => total) xs := by
  rw [figures, hf]

theorem figures_runningAvg (hf : w.function = .runningAvg) :
    w.figures xs = runningFigures (fun total count => total / ofNat count) xs := by
  rw [figures, hf]

theorem figures_pctOfTotal (hf : w.function = .pctOfTotal) : w.figures xs = shares xs := by
  rw [figures, hf]

theorem exists_runningFigures (hf : w.function = .runningSum ∨ w.function = .runningAvg) :
    ∃ f : α → Nat → α, w.figures = runningFigures f := by
  rcases hf with hf | hf
  · exact ⟨_, funext fun _ => figures_runningSum hf⟩
  · exact ⟨_, funext fun _ => figures_runningAvg hf⟩

end Figures

/-- The figures of a partition in exact arithmetic. -/
structure AddsUp (w : WindowField) (xs : List (Option ℚ)) : Prop where
  sums : w.function = .runningSum → ∀ pos < xs.length,
    let seen := present (xs.take (pos + 1))
    (w.figures xs)[pos]? = some (if seen = [] then none else some seen.sum)
  averages : w.function = .runningAvg → ∀ pos < xs.length,
    let seen := present (xs.take (pos + 1))
    (w.figures xs)[pos]? = some (if seen = [] then none else some (seen.sum / seen.length))
  last : w.function = .runningSum → xs ≠ [] → (w.figures xs).getLast? =
    some (if present xs = [] then none else some (present xs).sum)
  shares : w.function = .pctOfTotal → (present xs).sum ≠ 0 →
    w.figures xs = xs.map (Option.map (· / (present xs).sum)) ∧ (present (w.figures xs)).sum = 1
  noShares : w.function = .pctOfTotal → (present xs).sum = 0 →
    w.figures xs = xs.map fun _ => none

theorem addsUp (w : WindowField) (xs : List (Option ℚ)) : w.AddsUp xs where
  sums hf pos hpos := by
    rw [figures_runningSum hf]
    exact getElem?_exactFigures _ hpos
  averages hf pos hpos := by
    rw [figures_runningAvg hf]
    exact getElem?_exactFigures _ hpos
  last hf hne := by
    have hpos := List.length_pos_of_ne_nil hne
    rw [figures_runningSum hf, List.getLast?_eq_getElem?, length_runningFigures,
      getElem?_exactFigures _ (Nat.sub_one_lt_of_lt hpos), Nat.sub_add_cancel hpos, List.take_length]
  shares hf hne := by
    rw [figures_pctOfTotal hf]
    exact ⟨shares_of_ne_zero hne, sum_present_shares hne⟩
  noShares hf hz := by
    rw [figures_pctOfTotal hf, shares_of_zero hz]

/-- The cells show the figures of binary64, and are null where there is none. -/
structure ShowsFigures (w : WindowField) (xs : List (Option Float)) (own : List Json) : Prop where
  length : own.length = xs.length
  runningNull : w.function = .runningSum ∨ w.function = .runningAvg → ∀ pos < xs.length,
    (own[pos]? = some .null ↔ present (xs.take (pos + 1)) = [] ∨
      ∃ x, (w.figures xs)[pos]? = some (some x) ∧ x.isFinite = false)
  keeps : w.function = .runningSum ∨ w.function = .runningAvg → ∀ pos : Nat, xs[pos]? = some none →
    own[pos]? = if pos = 0 then some .null else own[pos - 1]?
  shareNull : w.function = .pctOfTotal → ∀ (pos : Nat) (x : Option Float), xs[pos]? = some x →
    (own[pos]? = some .null ↔ x = none ∨ isZero (sum (present xs)) = true ∨
      ∃ y, (w.figures xs)[pos]? = some (some y) ∧ y.isFinite = false)
  value : ∀ (pos : Nat) (x : Float), (w.figures xs)[pos]? = some (some x) → x.isFinite = true →
    ∃ j, own[pos]? = some j ∧ Cell.value? j = some (valueOf x)

section Cells

variable {w : WindowField} {xs : List (Option Float)} {pos : Nat}

theorem runningCells_eq (f : Float → Nat → Float) (xs : List (Option Float)) :
    runningCells f xs = (runningFigures f xs).map Aggregate.numberOrNull := by
  rw [runningCells, runningFigures, List.map_map]
  refine List.map_congr_left fun t _ => ?_
  simp only [Function.comp_apply]
  split
  · rfl
  · rfl

theorem partitionCells?_eq_figures (h : w.calculates = true) (members : List Row) :
    w.partitionCells? members =
      some ((w.figures (w.numbersOf Cell.number? members)).map Aggregate.numberOrNull) := by
  unfold partitionCells? figures
  cases hf : w.function with
  | runningSum => exact congrArg some (runningCells_eq _ _)
  | runningAvg => exact congrArg some (runningCells_eq _ _)
  | pctOfTotal => rfl
  | _ => simp [calculates, hf] at h

theorem getElem?_shares (xs : List (Option Float)) (pos : Nat) :
    (shares xs)[pos]? =
      xs[pos]?.map fun x => if isZero (sum (present xs)) then none else x.map (· / sum (present xs)) :=
  List.getElem?_map

theorem length_figures [Arithmetic α] (h : w.calculates = true) (xs : List (Option α)) :
    (w.figures xs).length = xs.length := by
  unfold figures
  cases hf : w.function with
  | runningSum => exact length_runningFigures _ xs
  | runningAvg => exact length_runningFigures _ xs
  | pctOfTotal => exact length_shares xs
  | _ => simp [calculates, hf] at h

theorem null_iff_of_figure {x : Option Float} (h : (w.figures xs)[pos]? = some x) :
    ((w.figures xs).map Aggregate.numberOrNull)[pos]? = some .null ↔
      x = none ∨ ∃ y, (w.figures xs)[pos]? = some (some y) ∧ y.isFinite = false := by
  rw [List.getElem?_map, h, Option.map_some, Option.some_inj, Aggregate.numberOrNull_eq_null_iff]
  simp only [Option.some_inj]

theorem showsFigures (h : w.calculates = true) (xs : List (Option Float)) :
    w.ShowsFigures xs ((w.figures xs).map Aggregate.numberOrNull) where
  length := by rw [List.length_map, length_figures h]
  runningNull hf pos hpos := by
    obtain ⟨f, hfigures⟩ := exists_runningFigures (α := Float) hf
    have hfigure := getElem?_runningFigures f hpos
    rw [← hfigures] at hfigure
    rw [null_iff_of_figure hfigure]
    simp
  keeps hf pos hpos := by
    obtain ⟨f, hfigures⟩ := exists_runningFigures (α := Float) hf
    rw [hfigures, List.getElem?_map, List.getElem?_map, getElem?_runningFigures_of_none f hpos]
    split
    · rfl
    · rfl
  shareNull hf pos x hpos := by
    have hfigure := getElem?_shares xs pos
    rw [← figures_pctOfTotal hf, hpos, Option.map_some] at hfigure
    rw [null_iff_of_figure hfigure, ← or_assoc]
    refine or_congr_left ?_
    split
    · next hz => simp [hz]
    · next hz => simp [hz]
  value pos x hx hf := by
    refine ⟨Cell.ofNumber x, ?_, Cell.value?_ofNumber hf⟩
    rw [List.getElem?_map, hx]
    rfl

end Cells

section Readings

variable {w : WindowField} {xs : List (Option ℚ)} {numbers : List (Option Float)} {ns : List ℤ}

/-- Each cell is read as the number of binary64 nearest to the one it denotes. -/
theorem numbersOf_rounded (w : WindowField) (members : List Row) :
    List.Forall₂ (Option.Rel RoundsTo) (w.numbersOf Cell.exactNumber? members)
      (w.numbersOf Cell.number? members) := by
  rw [numbersOf, numbersOf, List.forall₂_map_left_iff, List.forall₂_map_right_iff, List.forall₂_same]
  intro r _
  cases w.sourceCell r with
  | none => exact .none
  | some j =>
      rw [Option.bind_some, Option.bind_some]
      cases hn : Cell.number? j with
      | none =>
          rw [Cell.exactNumber?_eq_none_iff.mpr hn]
          exact .none
      | some x =>
          obtain ⟨v, hv⟩ := Option.isSome_iff_exists.mp (Cell.isSome_value? (by rw [hn]; rfl))
          rw [Cell.exactNumber?, hn, Option.bind_some, hv]
          exact .some ⟨Cell.number?_isNaN hn, Cell.extendedOf_number? hn hv⟩

theorem forall₂_present {α β : Type} {R : α → β → Prop} {xs : List (Option α)}
    {ys : List (Option β)} (h : List.Forall₂ (Option.Rel R) xs ys) :
    List.Forall₂ R (present xs) (present ys) := by
  induction h with
  | nil => exact .nil
  | cons hr _ ih =>
      cases hr with
      | some hr => exact .cons hr ih
      | none => exact ih

theorem whole_of_roundsTo {ys : List Float}
    (h : List.Forall₂ RoundsTo (ns.map fun n : ℤ => (n : ℚ)) ys) (hn : ∀ n ∈ ns, n.natAbs ≤ 2 ^ 53) :
    List.Forall₂ (fun x n => Whole x.toModel.unpack n) ys ns := by
  induction ns generalizing ys with
  | nil =>
      cases h
      exact .nil
  | cons n ns ih =>
      cases h with
      | cons hr h =>
          exact .cons (hr.whole (hn n (by simp))) (ih h fun m hm => hn m (List.mem_cons_of_mem n hm))

theorem exists_seen (hns : present xs = ns.map fun n : ℤ => (n : ℚ)) (hreach : SumsInReach ns)
    (k : Nat) : ∃ ms, present (xs.take k) = ms.map (fun n : ℤ => (n : ℚ)) ∧ SumsInReach ms := by
  have hprefix : present (xs.take k) <+: ns.map fun n : ℤ => (n : ℚ) := by
    rw [← hns]
    exact (List.take_prefix k xs).filterMap _
  have htake := List.prefix_iff_eq_take.mp hprefix
  rw [← List.map_take] at htake
  exact ⟨_, htake, hreach.of_prefix (List.take_prefix _ _)⟩

theorem value?_quotients {total : Float} {T : ℤ}
    (hrel : List.Forall₂ (Option.Rel RoundsTo) xs numbers)
    (hint : ∀ v ∈ present xs, ∃ n : ℤ, n.natAbs ≤ 2 ^ 53 ∧ (n : ℚ) = v)
    (ht : Whole total.toModel.unpack T) (hT : T ≠ 0) :
    numbers.map ((fun x => Cell.value? (Aggregate.numberOrNull x)) ∘ Option.map (· / total)) =
      xs.map (Option.map boundedValue ∘ Option.map (· / (T : ℚ))) := by
  induction hrel with
  | nil => rfl
  | @cons v x xs numbers hr hrel ih =>
      cases hr with
      | none => exact congrArg _ (ih hint)
      | @some v x hr =>
          obtain ⟨n, hn, rfl⟩ := hint v (by simp)
          obtain ⟨hf, hv⟩ := valueOf_div_whole (hr.whole hn) ht hT
          rw [List.map_cons, List.map_cons, ih fun v hv => hint v (List.mem_cons_of_mem _ hv)]
          congr 1
          exact (Cell.value?_ofNumber hf).trans (congrArg some hv)

section Values

variable (hrel : List.Forall₂ (Option.Rel RoundsTo) xs numbers)
  (hns : present xs = ns.map fun n : ℤ => (n : ℚ)) (hreach : SumsInReach ns)

include hrel hns hreach

theorem value?_runningFigures {f : ℚ → Nat → ℚ} {g : Float → Nat → Float}
    (hfg : ∀ ms total, SumsInReach ms → ms ≠ [] → Whole total.toModel.unpack ms.sum →
      (g total ms.length).isFinite = true ∧
        valueOf (g total ms.length) = boundedValue (f ms.sum ms.length)) :
    (runningFigures g numbers).map (fun x => Cell.value? (Aggregate.numberOrNull x)) =
      (runningFigures f xs).map (Option.map boundedValue) := by
  rw [runningFigures_eq_map, exactFigures_eq_map, List.map_map, List.map_map, ← hrel.length_eq]
  apply List.map_congr_left
  intro pos _
  obtain ⟨ms, hms, hmreach⟩ := exists_seen hns hreach (pos + 1)
  have hseen := forall₂_present (List.forall₂_take (pos + 1) hrel)
  rw [hms] at hseen
  have htotal := whole_foldl_exact (whole_of_roundsTo hseen hmreach.small) (x := ofNat 0) (t := 0)
    (.zero .positive) (by simpa using hmreach.partialSums)
  rw [zero_add] at htotal
  have hlength := hseen.length_eq
  rw [List.length_map] at hlength
  have hsum : (ms.map fun n : ℤ => (n : ℚ)).sum = (ms.sum : ℤ) := (Int.cast_list_sum ms).symm
  simp only [Function.comp_apply, hms, List.map_eq_nil_iff, List.length_map, hsum]
  by_cases hm : ms = []
  · have hnil : present (numbers.take (pos + 1)) = [] :=
      List.length_eq_zero_iff.mp (by rw [← hlength, hm, List.length_nil])
    rw [if_pos hm, if_pos hnil]
    rfl
  · have hne : present (numbers.take (pos + 1)) ≠ [] := fun hnil =>
      hm (List.length_eq_zero_iff.mp (by rw [hlength, hnil, List.length_nil]))
    obtain ⟨hf, hv⟩ := hfg ms _ hmreach hm htotal
    rw [if_neg hm, if_neg hne, ← hlength, Option.map_some, ← hv]
    exact Cell.value?_ofNumber hf

theorem value?_runningSum (hf : w.function = .runningSum) :
    (w.figures numbers).map (fun x => Cell.value? (Aggregate.numberOrNull x)) =
      (w.figures xs).map (Option.map boundedValue) := by
  rw [figures_runningSum hf, figures_runningSum hf]
  refine value?_runningFigures hrel hns hreach fun ms total hm _ ht => ⟨isFinite_of_whole ht, ?_⟩
  rw [valueOf_of_whole ht, boundedValue_small hm.sum_le]

theorem value?_runningAvg (hf : w.function = .runningAvg) :
    (w.figures numbers).map (fun x => Cell.value? (Aggregate.numberOrNull x)) =
      (w.figures xs).map (Option.map boundedValue) := by
  rw [figures_runningAvg hf, figures_runningAvg hf]
  refine value?_runningFigures hrel hns hreach fun ms total hm hne ht => ?_
  have hcount := whole_ofNat (n := ms.length) (hm.length.trans_lt (by decide))
  rw [← nearest_natCast, nearest_of_le (by simpa using hm.length)] at hcount
  exact valueOf_div_whole ht hcount (by simpa using hne)

theorem value?_shares :
    (shares numbers).map (fun x => Cell.value? (Aggregate.numberOrNull x)) =
      (shares xs).map (Option.map boundedValue) := by
  have hpresent := forall₂_present hrel
  rw [hns] at hpresent
  have htotal := whole_foldl_exact (whole_of_roundsTo hpresent hreach.small) (x := emptySum) (t := 0)
    (.zero .negative) (by simpa using hreach.partialSums)
  rw [zero_add] at htotal
  have hsum : (present xs).sum = (ns.sum : ℤ) := by rw [hns, Int.cast_list_sum]
  have hzero : isZero (sum (present numbers)) = true ↔ ns.sum = 0 := by
    have hbeq := Decimal.beq_iff_valueOf_eq (isFinite_of_whole htotal) zero_exact.1
    rw [valueOf_of_whole htotal, zero_exact.2, Int.cast_eq_zero] at hbeq
    exact hbeq
  by_cases hz : ns.sum = 0
  · rw [shares_of_zero (by rw [hsum, hz, Int.cast_zero]), shares_of_isZero (hzero.mpr hz),
      List.map_map, List.map_map]
    exact (List.map_const' ..).trans
      ((congrArg (List.replicate · none) hrel.length_eq.symm).trans (List.map_const' ..).symm)
  · have hne : (present xs).sum ≠ 0 := by
      rw [hsum]
      exact_mod_cast hz
    rw [shares_of_ne_zero hne, shares_of_not_isZero (mt hzero.mp hz), List.map_map, List.map_map, hsum]
    refine value?_quotients hrel (fun v hv => ?_) htotal hz
    obtain ⟨n, hn, rfl⟩ := List.mem_map.mp (hns ▸ hv)
    exact ⟨n, hreach.small n hn, rfl⟩

theorem value?_figures (h : w.calculates = true) :
    (w.figures numbers).map (fun x => Cell.value? (Aggregate.numberOrNull x)) =
      (w.figures xs).map (Option.map boundedValue) := by
  cases hf : w.function with
  | runningSum => exact value?_runningSum hrel hns hreach hf
  | runningAvg => exact value?_runningAvg hrel hns hreach hf
  | pctOfTotal =>
      rw [figures_pctOfTotal hf, figures_pctOfTotal hf]
      exact value?_shares hrel hns hreach
  | _ => simp [calculates, hf] at h

omit hrel in
theorem boundedValue_runningSum (hf : w.function = .runningSum) :
    (w.figures xs).map (Option.map boundedValue) = w.figures xs := by
  rw [figures_runningSum hf, exactFigures_eq_map, List.map_map]
  apply List.map_congr_left
  intro pos _
  obtain ⟨ms, hms, hm⟩ := exists_seen hns hreach (pos + 1)
  have hsum : (ms.map fun n : ℤ => (n : ℚ)).sum = (ms.sum : ℤ) := (Int.cast_list_sum ms).symm
  simp only [Function.comp_apply, hms, hsum]
  split
  · rfl
  · rw [Option.map_some, boundedValue_small hm.sum_le]

end Values

end Readings

end WindowField

open Arithmetic WindowField in
/-- In exact arithmetic the figures of a sorted partition add up. The cells are those of the same
figures in binary64, of numbers read as the nearest ones: null before the first number and where
nothing is shared, else only if a figure is not finite, and kept where there is no number. Of integers
that are added without rounding, sums are exact and quotients are the nearest numbers. -/
theorem running_windows_add_up {w : WindowField} (hw : w.calculates = true) {rows : List Row}
    {key : String} {sorted : List Placed} (hs : w.partitionOf? rows key = some sorted) :
    let members := sorted.map Prod.fst
    let xs := w.numbersOf Cell.exactNumber? members
    let numbers := w.numbersOf Cell.number? members
    w.AddsUp xs ∧
      List.Forall₂ (Option.Rel RoundsTo) xs numbers ∧
      (∃ own, w.partitionCells? members = some own ∧ w.ShowsFigures numbers own ∧
        (∀ cells, w.evaluate? rows = some cells → ∀ (pos : Nat) (p : Placed),
          sorted[pos]? = some p → cells[p.2]? = own[pos]?) ∧
        ∀ ns : List ℤ, SumsInReach ns → (present xs = ns.map fun n : ℤ => (n : ℚ)) →
          own.map Cell.value? = (w.figures xs).map (Option.map boundedValue) ∧
            (w.function = .runningSum → own.map Cell.value? = w.figures xs)) ∧
      ((∃ cells, w.evaluate? rows = some cells) ↔ w.SortsAll rows) := by
  intro members xs numbers
  have hrel : List.Forall₂ (Option.Rel RoundsTo) xs numbers := numbersOf_rounded w members
  have hown := partitionCells?_eq_figures hw members
  refine ⟨w.addsUp xs, hrel, ⟨_, hown, showsFigures hw numbers, fun cells hc pos p hp => ?_,
    fun ns hreach hns => ?_⟩, ?_⟩
  · exact getElem?_of_evaluate? hc hs hown hp
  · have hvalues := value?_figures hrel hns hreach hw
    refine ⟨?_, fun hf => ?_⟩
    · rw [List.map_map]
      exact hvalues
    · rw [List.map_map, ← boundedValue_runningSum hns hreach hf]
      exact hvalues
  · rw [evaluate?_isSome_iff]
    exact and_iff_left fun hf => by simp [calculates, hf] at hw

def amountsInOrder (f : WindowFunction) : WindowField :=
  ⟨f, some "amount", "figure", ["region"], [⟨"amount", .asc⟩], none, none⟩

def sale (region : String) (amount : Json) : Row := ⟨[("region", .str region), ("amount", amount)]⟩

def fiveSales : List Row :=
  [sale "eu" (.int 3), sale "us" (.int 5), sale "eu" (.int 2), sale "eu" .null, sale "eu" (.int 1)]

/-- The third row comes second in its region: it has 3 out of 6, and a third of them. The row without
an amount comes last. -/
theorem amountsInOrder_add_up :
    (∃ cells, (amountsInOrder .runningSum).evaluate? fiveSales = some cells ∧
        cells[2]?.map Cell.value? = some (some 3) ∧ cells[3]?.map Cell.value? = some (some 6)) ∧
      ∃ cells, (amountsInOrder .pctOfTotal).evaluate? fiveSales = some cells ∧
        cells[2]?.map Cell.value? = some (some (boundedValue (1 / 3))) ∧ cells[3]? = some .null := by
  have hs (f : WindowFunction) : (amountsInOrder f).partitionOf? fiveSales "eu" =
      some [(sale "eu" (.int 1), 4), (sale "eu" (.int 2), 2), (sale "eu" (.int 3), 0),
        (sale "eu" .null, 3)] := rfl
  have hreach : SumsInReach [1, 2, 3] := ⟨by decide, by decide, by decide⟩
  have hnumbers (f : WindowFunction) : (amountsInOrder f).numbersOf Cell.exactNumber?
      [sale "eu" (.int 1), sale "eu" (.int 2), sale "eu" (.int 3), sale "eu" .null] =
        [some ((1 : ℤ) : ℚ), some ((2 : ℤ) : ℚ), some ((3 : ℤ) : ℚ), none] := rfl
  refine ⟨?_, ?_⟩
  · obtain ⟨hadds, -, ⟨own, -, -, hat, hvalues⟩, -⟩ := running_windows_add_up rfl (hs .runningSum)
    obtain ⟨cells, hc⟩ : ∃ cells, (amountsInOrder .runningSum).evaluate? fiveSales = some cells :=
      WindowField.exists_evaluate? (.inl (by decide)) nofun
    obtain ⟨-, hexact⟩ := hvalues [1, 2, 3] hreach rfl
    have hvalue := hexact rfl
    have hsums := hadds.sums rfl
    simp only [List.map_cons, List.map_nil, hnumbers] at hvalue hsums
    refine ⟨cells, hc, ?_, ?_⟩
    · rw [hat cells hc 1 _ rfl, ← List.getElem?_map, hvalue, hsums 1 (by decide)]
      norm_num [List.cons_ne_nil]
    · rw [hat cells hc 3 _ rfl, ← List.getElem?_map, hvalue, hsums 3 (by decide)]
      norm_num [List.cons_ne_nil]
  · obtain ⟨hadds, -, ⟨own, -, hshows, hat, hvalues⟩, -⟩ := running_windows_add_up rfl (hs .pctOfTotal)
    obtain ⟨cells, hc⟩ : ∃ cells, (amountsInOrder .pctOfTotal).evaluate? fiveSales = some cells :=
      WindowField.exists_evaluate? (.inl (by decide)) nofun
    obtain ⟨hvalue, -⟩ := hvalues [1, 2, 3] hreach rfl
    have hshares := hadds.shares rfl
    simp only [List.map_cons, List.map_nil, hnumbers] at hvalue hshares
    refine ⟨cells, hc, ?_, ?_⟩
    · rw [hat cells hc 1 _ rfl, ← List.getElem?_map, hvalue, (hshares (by norm_num)).1]
      norm_num
    · rw [hat cells hc 3 _ rfl]
      exact (hshows.shareNull rfl 3 none rfl).mpr (.inl rfl)

end TableQuery
