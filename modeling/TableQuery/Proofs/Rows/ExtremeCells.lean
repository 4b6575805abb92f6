import TableQuery.Proofs.Lists.Leading
import TableQuery.Proofs.Rows.Extremes
import TableQuery.Proofs.Rows.IntegerOrder
import TableQuery.Proofs.Rows.ReadNumbers
import TableQuery.Proofs.Sorting.Placing
import TableQuery.Proofs.Text.ByteOrder

namespace TableQuery

open Std (LawfulEqOrd OrientedCmp)

namespace Cell

def ReadsLess (j k : Json) : Prop := ∃ x y, number? j = some x ∧ number? k = some y ∧ x < y

def DenotesLess (j k : Json) : Prop := ∃ v w, value? j = some v ∧ value? k = some w ∧ v < w

def TextLess (j k : Json) : Prop :=
  ∃ t u, text? j = some t ∧ text? k = some u ∧ Text.bytes t < Text.bytes u

section Less

variable {j k : Json}

theorem ReadsLess.denotesLess (h : ReadsLess j k) : DenotesLess j k := by
  obtain ⟨x, y, hx, hy, hlt⟩ := h
  obtain ⟨v, hv⟩ := Option.isSome_iff_exists.mp (isSome_value? (hx ▸ rfl : (number? j).isSome))
  obtain ⟨w, hw⟩ := Option.isSome_iff_exists.mp (isSome_value? (hy ▸ rfl : (number? k).isSome))
  exact ⟨v, w, hv, hw, value_lt_of_reading_lt hx hy hv hw hlt⟩

theorem DenotesLess.asymm (h : DenotesLess j k) : ¬DenotesLess k j := by
  obtain ⟨v, w, hv, hw, hlt⟩ := h
  rintro ⟨w', v', hw', hv', hlt'⟩
  obtain rfl := Option.some.inj (hv.symm.trans hv')
  obtain rfl := Option.some.inj (hw.symm.trans hw')
  exact hlt.asymm hlt'

/-- What denotes less reads as less, unless both read alike. -/
theorem DenotesLess.readsLess_or_equal (h : DenotesLess j k) (hj : (number? j).isSome)
    (hk : (number? k).isSome) : ReadsLess j k ∨ equal j k = true := by
  obtain ⟨x, hx⟩ := Option.isSome_iff_exists.mp hj
  obtain ⟨y, hy⟩ := Option.isSome_iff_exists.mp hk
  have hnx := number?_isNaN hx
  have hny := number?_isNaN hy
  have hback : ¬y < x := fun hyx => h.asymm (ReadsLess.denotesLess ⟨y, x, hy, hx, hyx⟩)
  rw [FloatOrder.lt_iff hny hnx, Std.OrientedOrd.eq_swap] at hback
  cases hc : Ord.compare (FloatOrder.key x) (FloatOrder.key y) with
  | lt => exact .inl ⟨x, y, hx, hy, (FloatOrder.lt_iff hnx hny).mpr hc⟩
  | eq =>
      refine .inr ?_
      simp only [equal, hx, hy]
      exact (FloatOrder.beq_iff hnx hny).mpr hc
  | gt => exact absurd (by rw [hc]; rfl) hback

theorem equal_symm (hj : (number? j).isSome) (hk : (number? k).isSome) (h : equal j k = true) :
    equal k j = true := by
  obtain ⟨x, hx⟩ := Option.isSome_iff_exists.mp hj
  obtain ⟨y, hy⟩ := Option.isSome_iff_exists.mp hk
  simp only [equal, hx, hy] at h ⊢
  rw [FloatOrder.beq_iff (number?_isNaN hx) (number?_isNaN hy)] at h
  exact (FloatOrder.beq_iff (number?_isNaN hy) (number?_isNaN hx)).mpr (OrientedCmp.eq_symm h)

theorem compare_eq_lt_iff (hj : (number? j).isSome) (hk : (number? k).isSome) :
    compare (some j) (some k) = .lt ↔ ReadsLess j k := by
  obtain ⟨x, hx⟩ := Option.isSome_iff_exists.mp hj
  obtain ⟨y, hy⟩ := Option.isSome_iff_exists.mp hk
  rw [compare_of_present (isMissing_of_number? hx) (isMissing_of_number? hy),
    compareValues_of_numbers hx hy, ← FloatOrder.lt_iff (number?_isNaN hx) (number?_isNaN hy)]
  simp [ReadsLess, hx, hy]

end Less
end Cell

namespace Aggregate

open Cell (ReadsLess DenotesLess TextLess)

theorem compareTexts_eq_lt_iff {j k : Json} (hj : j.isNull = false) (hk : k.isNull = false) :
    compareTexts j k = .lt ↔ TextLess j k := by
  obtain ⟨t, ht⟩ := Cell.exists_text hj
  obtain ⟨u, hu⟩ := Cell.exists_text hk
  rw [compareTexts, Cell.compareStrings_eq_compare, ht, hu, Option.getD_some, Option.getD_some,
    compare_lt_iff_lt, ← Text.bytes_lt_iff]
  simp [TextLess, ht, hu]

section First

variable {order : Json → Json → Ordering} [OrientedCmp order]

theorem first_concat (order : Json → Json → Ordering) (j : Json) (rest : List Json) (k : Json) :
    first order (j :: (rest ++ [k])) =
      if order k (first order (j :: rest)) = .lt then k else first order (j :: rest) := by
  rw [first, first, List.foldl_append]
  rfl

/-- Each cell that is taken in turn leads the cells so far. -/
theorem leads_first {j : Json} {rest : List Json} (ht : TransitiveOn order (j :: rest)) :
    Leads (fun a b => order a b = .lt) (j :: rest) (first order (j :: rest)) := by
  induction rest using List.reverseRecOn with
  | nil => exact Leads.head (by simp)
  | append_singleton rest k ih =>
      have hsub : j :: rest ⊆ j :: (rest ++ [k]) := by
        rw [← List.cons_append]
        exact List.subset_append_left _ _
      have hlead := ih (ht.mono hsub)
      obtain ⟨hmem, hleast⟩ := foremost_first (ht.mono hsub)
      rw [first_concat, ← List.cons_append]
      split
      · next hk =>
          refine Leads.last fun x hx => ?_
          exact ht.lt_of_lt_of_isLE (by simp) (hsub hmem) (hsub hx) hk (hleast x hx)
      · next hk => exact hlead.concat hk

end First

def columnCells (a : AggregateField) (rows : List Row) : List Json :=
  if a.countsRows then [] else values (outputName a.field) rows

/-- Which of two cells is the more extreme one, if one is less than the other. -/
def Passes (less : Json → Json → Prop) : AggregateFunction → Json → Json → Prop
  | .max, j, k => less k j
  | _, j, k => less j k

section Extremes

variable {a : AggregateField} {rows : List Row} {order : Json → Json → Ordering}
variable {f : AggregateFunction} {cells : List Json} {j k : Json}

theorem isNull_of_mem_columnCells (h : j ∈ columnCells a rows) : j.isNull = false := by
  unfold columnCells at h
  split at h
  · cases h
  · exact isNull_of_mem_values h

theorem exists_order (hf : a.function = .min ∨ a.function = .max) :
    ∃ order, orderFor? (columnCells a rows) a.function = some order ∧
      compute a rows = first order (columnCells a rows) := by
  obtain ⟨order, ho⟩ : ∃ order, orderFor? (columnCells a rows) a.function = some order := by
    rcases hf with hf | hf <;> rw [hf] <;> exact ⟨_, rfl⟩
  refine ⟨order, ho, ?_⟩
  unfold columnCells at ho ⊢
  cases hc : a.countsRows with
  | true =>
      have hcount : a.function.isCounting = false := by
        rcases hf with hf | hf <;> rw [hf] <;> rfl
      simp [compute, hc, hcount, first]
  | false =>
      rw [hc] at ho
      exact compute_of_order hc ho

theorem lt_iff_passes (ho : orderFor? cells f = some order) {less : Json → Json → Prop}
    (hless : ∀ j ∈ cells, ∀ k ∈ cells, extremeOrder cells j k = .lt ↔ less j k) (hj : j ∈ cells)
    (hk : k ∈ cells) : order j k = .lt ↔ Passes less f j k := by
  cases f with
  | min =>
      obtain rfl := Option.some.inj ho
      exact hless j hj k hk
  | max =>
      obtain rfl := Option.some.inj ho
      exact hless k hk j hj
  | _ => cases ho

theorem leads_compute (hf : a.function = .min ∨ a.function = .max) (hne : columnCells a rows ≠ [])
    {less : Json → Json → Prop}
    (hless : ∀ j ∈ columnCells a rows, ∀ k ∈ columnCells a rows,
      extremeOrder (columnCells a rows) j k = .lt ↔ less j k) :
    Leads (Passes less a.function) (columnCells a rows) (compute a rows) := by
  obtain ⟨order, ho, hcompute⟩ := exists_order (a := a) hf
  obtain ⟨_, ht⟩ := orderFor?_lawful ho
  have hlead : Leads (fun a b => order a b = .lt) (columnCells a rows) (compute a rows) := by
    rw [hcompute]
    obtain ⟨j, rest, hcells⟩ := List.exists_cons_of_ne_nil hne
    rw [hcells] at ht ⊢
    exact leads_first ht
  exact hlead.imp (fun k hk => (lt_iff_passes ho hless hlead.mem hk).mp)
    fun k hk => (lt_iff_passes ho hless hk hlead.mem).mpr

theorem passes_imp {less less' : Json → Json → Prop} (h : ∀ j k, less j k → less' j k)
    (hp : Passes less f j k) : Passes less' f j k := by
  cases f <;> exact h _ _ hp

theorem passes_or_equal (hj : (Cell.number? j).isSome) (hk : (Cell.number? k).isSome)
    (h : Passes DenotesLess f k j) : Passes ReadsLess f k j ∨ Cell.equal k j = true := by
  cases f with
  | max => exact (Cell.DenotesLess.readsLess_or_equal h hj hk).imp_right (Cell.equal_symm hj hk)
  | _ => exact Cell.DenotesLess.readsLess_or_equal h hk hj

theorem Passes.asymm (h : Passes DenotesLess f j k) : ¬Passes DenotesLess f k j := by
  cases f <;> exact Cell.DenotesLess.asymm h

theorem extreme_eq_null_iff (hf : a.function = .min ∨ a.function = .max) :
    compute a rows = .null ↔ columnCells a rows = [] := by
  constructor
  · intro hnull
    by_contra hne
    have hlead := leads_compute hf hne fun _ _ _ _ => Iff.rfl
    have hcell := isNull_of_mem_columnCells hlead.mem
    rw [hnull] at hcell
    cases hcell
  · intro hnil
    obtain ⟨order, -, hcompute⟩ := exists_order (a := a) hf
    rw [hcompute, hnil]
    rfl

end Extremes

/-- The extreme of numbers is the first of those that no other one passes in binary64. It is the
first that no other one passes at all exactly when none of the cells that read as it does denotes a
more extreme number. -/
theorem extreme_leads_iff {a : AggregateField} (hf : a.function = .min ∨ a.function = .max)
    (rows : List Row) :
    (compute a rows = .null ↔ columnCells a rows = []) ∧
      (columnCells a rows ≠ [] → ¬Numeric (columnCells a rows) →
        Leads (Passes TextLess a.function) (columnCells a rows) (compute a rows)) ∧
      (columnCells a rows ≠ [] → Numeric (columnCells a rows) →
        Leads (Passes ReadsLess a.function) (columnCells a rows) (compute a rows) ∧
          (Leads (Passes DenotesLess a.function) (columnCells a rows) (compute a rows) ↔
            ∀ k ∈ columnCells a rows, Cell.equal k (compute a rows) = true →
              ¬Passes DenotesLess a.function k (compute a rows))) := by
  refine ⟨extreme_eq_null_iff hf, fun hne hn => ?_, fun hne hn => ?_⟩
  · refine leads_compute hf hne fun j hj k hk => ?_
    rw [extremeOrder_of_not_numeric hn]
    exact compareTexts_eq_lt_iff (isNull_of_mem_columnCells hj) (isNull_of_mem_columnCells hk)
  · have hlead : Leads (Passes ReadsLess a.function) (columnCells a rows) (compute a rows) := by
      refine leads_compute hf hne fun j hj k hk => ?_
      rw [extremeOrder_of_numeric hn]
      exact Cell.compare_eq_lt_iff (hn j hj) (hn k hk)
    refine ⟨hlead, fun hexact k hk _ => ?_, fun hlevel => ?_⟩
    · exact hexact.not_before (fun _ _ => Passes.asymm) hk
    · refine hlead.imp (fun k _ => passes_imp fun _ _ => Cell.ReadsLess.denotesLess)
        fun k hk hpass => ?_
      rcases passes_or_equal (hn _ hlead.mem) (hn k hk) hpass with hreads | hequal
      · exact hreads
      · exact absurd hpass (hlevel k hk hequal)

theorem numeric_of_all {cells : List Json}
    (h : (cells.all fun j => (Cell.number? j).isSome) = true) : Numeric cells :=
  List.all_eq_true.mp h

def pricedRows : List Row := [rowOfX 2, ⟨[("x", .str "1.5")]⟩, ⟨[("x", .null)]⟩, rowOfX 3]

theorem least_priced :
    compute leastX pricedRows = .str "1.5" ∧
      Leads (Passes DenotesLess .min) [.int 2, .str "1.5", .int 3] (.str "1.5") := by
  have hcells : columnCells leastX pricedRows = [.int 2, .str "1.5", .int 3] := rfl
  have hleast : compute leastX pricedRows = .str "1.5" := rfl
  have hn : Numeric (columnCells leastX pricedRows) := numeric_of_all (by decide +kernel)
  have hlead := (extreme_leads_iff (a := leastX) (.inl rfl) pricedRows).2.2 (by simp [hcells]) hn
  rw [hcells, hleast] at hlead
  refine ⟨hleast, hlead.2.mpr fun k hk hequal hless => ?_⟩
  simp only [List.mem_cons, List.not_mem_nil, or_false] at hk
  rcases hk with rfl | rfl | rfl
  · exact absurd hequal (by decide +kernel)
  · exact Passes.asymm hless hless
  · exact absurd hequal (by decide +kernel)

/-- Beyond `2 ^ 53` the greater one of two integers is taken as the least. -/
theorem least_reads_alike :
    let rows := [rowOfX 9007199254740993, rowOfX 9007199254740992]
    Numeric (columnCells leastX rows) ∧ compute leastX rows = .int 9007199254740993 ∧
      ¬Leads (Passes DenotesLess leastX.function) (columnCells leastX rows)
        (compute leastX rows) := by
  have hcompute : compute leastX [rowOfX 9007199254740993, rowOfX 9007199254740992] =
      .int 9007199254740993 := rfl
  have hless : DenotesLess (.int 9007199254740992) (.int 9007199254740993) :=
    ⟨_, _, rfl, rfl, by norm_num⟩
  refine ⟨numeric_of_all (by decide +kernel), hcompute, fun hlead => ?_⟩
  rw [hcompute] at hlead
  exact hlead.not_before (fun _ _ => Passes.asymm) (List.mem_cons_of_mem _ List.mem_cons_self) hless

end Aggregate
end TableQuery
