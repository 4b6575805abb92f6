import TableQuery.Proofs.Rows.FloatSort
import TableQuery.Proofs.Rows.GroupKeys
import TableQuery.Proofs.Rows.RowCells

namespace TableQuery

open Std (LawfulEqOrd OrientedCmp ReflCmp TransCmp)

namespace Cell

theorem isMissing_of_number? {j : Json} {x : Float} (h : number? j = some x) :
    isMissing (some j) = false := by
  cases j with
  | null => cases h
  | _ => rfl

theorem exists_text {j : Json} (h : j.isNull = false) : ∃ t, text? j = some t := by
  rcases missing_or_text (some j) with hm | ⟨-, t, ht⟩
  · exact absurd (h.symm.trans hm) (by decide)
  · exact ⟨t, ht⟩

end Cell

namespace Aggregate

section First

variable {order : Json → Json → Ordering} {cells : List Json}

/-- A cell that no other one comes before. -/
def Foremost (order : Json → Json → Ordering) (cells : List Json) (j : Json) : Prop :=
  j ∈ cells ∧ ∀ k ∈ cells, (order j k).isLE

theorem first_cons_cons (j k : Json) (rest : List Json) :
    first order (j :: k :: rest) = first order ((if order k j = .lt then k else j) :: rest) := rfl

section Oriented

variable [OrientedCmp order]

variable (order) in
theorem exists_winner (j k : Json) :
    ∃ w, (if order k j = .lt then k else j) = w ∧ (w = j ∨ w = k) ∧ (order w j).isLE ∧
      (order w k).isLE := by
  by_cases hk : order k j = .lt
  · rw [if_pos hk]
    exact ⟨k, rfl, .inr rfl, Ordering.isLE_of_eq_lt hk, ReflCmp.isLE_rfl⟩
  · rw [if_neg hk]
    have hs : order j k = (order k j).swap := OrientedCmp.eq_swap
    refine ⟨j, rfl, .inl rfl, ReflCmp.isLE_rfl, ?_⟩
    rw [hs]
    revert hk
    cases order k j <;> simp

theorem foremost_first {j : Json} {rest : List Json} (ht : TransitiveOn order (j :: rest)) :
    Foremost order (j :: rest) (first order (j :: rest)) := by
  induction rest generalizing j with
  | nil =>
      refine ⟨List.mem_singleton_self j, fun k hk => ?_⟩
      rw [List.mem_singleton.mp hk]
      exact ReflCmp.isLE_rfl
  | cons k rest ih =>
      obtain ⟨w, hw, hor, hwj, hwk⟩ := exists_winner order j k
      have hsub {x : Json} (hx : x ∈ w :: rest) : x ∈ j :: k :: rest := by
        simp only [List.mem_cons] at hx ⊢
        rcases hx with rfl | hx
        · exact hor.imp_right .inl
        · exact .inr (.inr hx)
      obtain ⟨hm, hle⟩ := ih fun a ha b hb c hc => ht a (hsub ha) b (hsub hb) c (hsub hc)
      rw [first_cons_cons, hw]
      have hfw := hle w List.mem_cons_self
      have through {x : Json} (hx : x ∈ j :: k :: rest) (hwx : (order w x).isLE) :
          (order (first order (w :: rest)) x).isLE :=
        ht _ (hsub hm) w (hsub List.mem_cons_self) x hx hfw hwx
      refine ⟨hsub hm, fun x hx => ?_⟩
      rcases List.mem_cons.mp hx with rfl | hx'
      · exact through hx hwj
      · rcases List.mem_cons.mp hx' with rfl | hr
        · exact through hx hwk
        · exact hle x (List.mem_cons_of_mem w hr)

theorem first_eq_head {j : Json} {rest : List Json} (h : ∀ k ∈ rest, (order j k).isLE) :
    first order (j :: rest) = j := by
  induction rest with
  | nil => rfl
  | cons k rest ih =>
      have hk : order k j ≠ .lt := OrientedCmp.not_lt_of_isLE (h k List.mem_cons_self)
      rw [first_cons_cons, if_neg hk]
      exact ih fun x hx => h x (List.mem_cons_of_mem k hx)

theorem Foremost.order_eq {j k : Json} (hj : Foremost order cells j) (hk : Foremost order cells k) :
    order j k = .eq :=
  OrientedCmp.isLE_antisymm (hj.2 k hk.1) (hk.2 j hj.1)

end Oriented

theorem Foremost.of_perm {cells' : List Json} (h : cells.Perm cells') {j : Json}
    (hj : Foremost order cells j) : Foremost order cells' j :=
  ⟨h.mem_iff.mp hj.1, fun k hk => hj.2 k (h.mem_iff.mpr hk)⟩

end First

/-- Every cell reads as a number. -/
def Numeric (cells : List Json) : Prop := ∀ j ∈ cells, (Cell.number? j).isSome

/-- The order by which an aggregate takes the first one of the cells. -/
def orderFor? (cells : List Json) : AggregateFunction → Option (Json → Json → Ordering)
  | .min => some (extremeOrder cells)
  | .max => some fun a b => extremeOrder cells b a
  | _ => none

section Extremes

variable {cells cells' : List Json}

theorem extremeOrder_of_numeric (h : Numeric cells) :
    extremeOrder cells = fun a b => Cell.compare (some a) (some b) := by
  rw [extremeOrder, if_pos (List.all_eq_true.mpr h)]

theorem extremeOrder_of_not_numeric (h : ¬Numeric cells) : extremeOrder cells = compareTexts := by
  rw [extremeOrder, if_neg fun ha => h (List.all_eq_true.mp ha)]

theorem numeric_perm (h : cells.Perm cells') : Numeric cells ↔ Numeric cells' := by
  simp only [Numeric, h.mem_iff]

theorem orderFor?_perm (h : cells.Perm cells') (f : AggregateFunction) :
    orderFor? cells f = orderFor? cells' f := by
  have he : extremeOrder cells = extremeOrder cells' := by
    by_cases hn : Numeric cells
    · rw [extremeOrder_of_numeric hn, extremeOrder_of_numeric ((numeric_perm h).mp hn)]
    · rw [extremeOrder_of_not_numeric hn,
        extremeOrder_of_not_numeric fun hn' => hn ((numeric_perm h).mpr hn')]
  cases f <;> simp only [orderFor?, he]

instance : TransCmp compareTexts where
  eq_swap {a b} := by
    rw [compareTexts, compareTexts, Cell.compareStrings_eq_compare, Cell.compareStrings_eq_compare]
    exact OrientedCmp.eq_swap
  isLE_trans {a b c} hab hbc := by
    rw [compareTexts, Cell.compareStrings_eq_compare] at *
    exact TransCmp.isLE_trans hab hbc

instance : OrientedCmp (extremeOrder cells) := by
  by_cases h : Numeric cells
  · rw [extremeOrder_of_numeric h]
    exact ⟨OrientedCmp.eq_swap⟩
  · rw [extremeOrder_of_not_numeric h]
    infer_instance

theorem transitiveOn_extremeOrder : TransitiveOn (extremeOrder cells) cells := by
  by_cases h : Numeric cells
  · rw [extremeOrder_of_numeric h, TransitiveOn.map_iff, Cell.compare_transitiveOn_iff]
    refine Cell.NumbersFollowTexts.of_uniform (.inl fun j hj => h j ?_)
    simpa using (Cell.mem_present.mp hj).1
  · rw [extremeOrder_of_not_numeric h]
    exact fun a _ b _ c _ hab hbc => TransCmp.isLE_trans hab hbc

theorem orderFor?_lawful {f : AggregateFunction} {order : Json → Json → Ordering}
    (h : orderFor? cells f = some order) : OrientedCmp order ∧ TransitiveOn order cells := by
  cases f with
  | min =>
      obtain rfl := Option.some.inj h
      exact ⟨inferInstance, transitiveOn_extremeOrder⟩
  | max =>
      obtain rfl := Option.some.inj h
      exact ⟨inferInstance, transitiveOn_extremeOrder.opposite⟩
  | _ => cases h

theorem ofCells_of_order {a : AggregateField} {order : Json → Json → Ordering}
    (h : orderFor? cells a.function = some order) : ofCells a cells = first order cells := by
  cases hf : a.function with
  | min | max =>
      rw [hf] at h
      obtain rfl := Option.some.inj h
      rw [ofCells, hf]
      rfl
  | _ =>
      rw [hf] at h
      cases h

theorem compute_of_order {a : AggregateField} {rows : List Row} (hc : a.countsRows = false)
    {order : Json → Json → Ordering}
    (h : orderFor? (values (outputName a.field) rows) a.function = some order) :
    compute a rows = first order (values (outputName a.field) rows) := by
  rw [compute, if_neg (by simp [hc]), ofCells_of_order h]

theorem extremeOrder_of_orderFor? {f : AggregateFunction} {order : Json → Json → Ordering}
    (h : orderFor? cells f = some order) {j k : Json} (he : order j k = .eq) :
    extremeOrder cells j k = .eq := by
  cases f with
  | min =>
      obtain rfl := Option.some.inj h
      exact he
  | max =>
      obtain rfl := Option.some.inj h
      exact OrientedCmp.eq_symm he
  | _ => cases h

theorem equal_of_level (h : Numeric cells) {j k : Json} (hj : j ∈ cells) (hk : k ∈ cells)
    (he : extremeOrder cells j k = .eq) : Cell.equal j k = true := by
  obtain ⟨x, hx⟩ := Option.isSome_iff_exists.mp (h j hj)
  obtain ⟨y, hy⟩ := Option.isSome_iff_exists.mp (h k hk)
  have hjn := Cell.isMissing_of_number? hx
  have hkn := Cell.isMissing_of_number? hy
  rw [extremeOrder_of_numeric h] at he
  change Cell.compare (some j) (some k) = .eq at he
  rw [Cell.compare_of_present hjn hkn, Cell.compareValues_of_numbers hx hy] at he
  simp only [Cell.equal, hx, hy]
  exact (FloatOrder.beq_iff (Cell.number?_isNaN hx) (Cell.number?_isNaN hy)).mpr he

theorem sameText_of_level (h : ¬Numeric cells) {j k : Json} (hj : j.isNull = false)
    (hk : k.isNull = false) (he : extremeOrder cells j k = .eq) :
    Cell.SameText (some j) (some k) := by
  obtain ⟨t, ht⟩ := Cell.exists_text hj
  obtain ⟨u, hu⟩ := Cell.exists_text hk
  rw [extremeOrder_of_not_numeric h, compareTexts, Cell.compareStrings_eq_compare, ht, hu] at he
  obtain rfl : t = u := LawfulEqOrd.eq_of_compare he
  exact .inr ⟨t, ht, hu⟩

end Extremes

/-- How two results of an aggregate stand to each other, if they are taken from the same cells in
different orders. -/
def Alike (same : Json → Json → Prop) (f : AggregateFunction) (cells : List Json) (a b : Json) :
    Prop :=
  match f with
  | .sum | .avg | .stddev => True
  | .min | .max =>
      (Numeric cells → same a b) ∧ (¬Numeric cells → Cell.SameText (some a) (some b))
  | _ => a = b

/-- Cells that stand level as the extreme of numbers are the same. -/
def Ties (same : Json → Json → Prop) (f : AggregateFunction) (cells : List Json) : Prop :=
  Numeric cells → ∀ order, orderFor? cells f = some order →
    ∀ j k, Foremost order cells j → Foremost order cells k → same j k

section Alike

variable {cells cells' : List Json} (hp : cells.Perm cells')

include hp

theorem sorted_numbers_eq : sorted (numbers cells) = sorted (numbers cells') := by
  apply FloatOrder.sorted_eq_of_perm (hp.filterMap _)
  intro x hx
  obtain ⟨j, -, hj⟩ := List.mem_filterMap.mp hx
  exact Cell.number?_isNaN hj

theorem distinctCount_eq : distinctCount cells = distinctCount cells' :=
  (eraseDups_perm (hp.filterMap Cell.text?)).length_eq

theorem foremost_first_perm {f : AggregateFunction} {order : Json → Json → Ordering}
    (ho : orderFor? cells f = some order) (hc : cells ≠ []) :
    Foremost order cells (first order cells) ∧ Foremost order cells (first order cells') := by
  have ho' := ho
  rw [orderFor?_perm hp] at ho'
  have hfirst {ks : List Json} (hk : orderFor? ks f = some order) (hne : ks ≠ []) :
      Foremost order ks (first order ks) := by
    obtain ⟨_, ht⟩ := orderFor?_lawful hk
    obtain ⟨j, rest, rfl⟩ := List.exists_cons_of_ne_nil hne
    exact foremost_first ht
  refine ⟨hfirst ho hc, (hfirst ho' ?_).of_perm hp.symm⟩
  rintro rfl
  exact hc hp.eq_nil

/-- Taken from the same cells, the first ones are the same as far as ties are. -/
theorem first_alike (hn : ∀ j ∈ cells, j.isNull = false) {same : Json → Json → Prop}
    (hnull : same .null .null) {f : AggregateFunction} (ht : Ties same f cells)
    {order : Json → Json → Ordering} (ho : orderFor? cells f = some order) :
    (Numeric cells → same (first order cells) (first order cells')) ∧
      (¬Numeric cells → Cell.SameText (some (first order cells)) (some (first order cells'))) := by
  by_cases hc : cells = []
  · subst hc
    rw [hp.nil_eq.symm]
    exact ⟨fun _ => hnull, fun _ => .inl ⟨rfl, rfl⟩⟩
  · obtain ⟨hj, hk⟩ := foremost_first_perm hp ho hc
    refine ⟨fun hnum => ht hnum order ho _ _ hj hk, fun hnum => ?_⟩
    obtain ⟨_, -⟩ := orderFor?_lawful ho
    exact sameText_of_level hnum (hn _ hj.1) (hn _ hk.1)
      (extremeOrder_of_orderFor? ho (hj.order_eq hk))

theorem ofCells_alike (hn : ∀ j ∈ cells, j.isNull = false) {same : Json → Json → Prop}
    (hnull : same .null .null) {a : AggregateField} (ht : Ties same a.function cells) :
    Alike same a.function cells (ofCells a cells) (ofCells a cells') := by
  cases hf : a.function with
  | min | max =>
      have hs : (orderFor? cells a.function).isSome := by
        rw [hf]
        rfl
      obtain ⟨order, ho⟩ := Option.isSome_iff_exists.mp hs
      have ho' := ho
      rw [orderFor?_perm hp] at ho'
      rw [ofCells_of_order ho, ofCells_of_order ho']
      exact first_alike hp hn hnull ht ho
  | sum | avg | stddev => trivial
  | count =>
      rw [ofCells, ofCells, hf]
      exact congrArg Json.ofNat hp.length_eq
  | countDistinct =>
      rw [ofCells, ofCells, hf]
      exact congrArg Json.ofNat (distinctCount_eq hp)
  | median | p25 | p75 | percentile =>
      simp only [Alike, ofCells, hf, sorted_numbers_eq hp]

end Alike

theorem values_perm {rows rows' : List Row} (h : rows.Perm rows') (column : String) :
    (values column rows).Perm (values column rows') :=
  (h.filterMap _).filter _

theorem isNull_of_mem_values {column : String} {rows : List Row} {j : Json}
    (h : j ∈ values column rows) : j.isNull = false := by
  simpa using (List.mem_filter.mp h).2

theorem Alike.same_of_numeric {same : Json → Json → Prop} {f : AggregateFunction} {cells : List Json}
    {a b : Json} (h : Alike same f cells a b) (hn : Numeric cells)
    {order : Json → Json → Ordering} (ho : orderFor? cells f = some order) : same a b := by
  cases f with
  | min | max => exact h.1 hn
  | _ => cases ho

theorem Alike.refl {same : Json → Json → Prop} {j : Json} (h : same j j) (f : AggregateFunction)
    (cells : List Json) : Alike same f cells j j := by
  have ht : Cell.SameText (some j) (some j) := Cell.sameText_iff.mpr ⟨rfl, rfl⟩
  cases f with
  | min | max => exact ⟨fun _ => h, fun _ => ht⟩
  | sum | avg | stddev => trivial
  | _ => rfl

/-- The same rows in another order. -/
theorem compute_alike {a : AggregateField} {rows rows' : List Row} (hp : rows.Perm rows')
    {same : Json → Json → Prop} (hnull : same .null .null)
    (ht : a.countsRows = false → Ties same a.function (values (outputName a.field) rows)) :
    Alike same a.function (values (outputName a.field) rows) (compute a rows) (compute a rows') := by
  cases hc : a.countsRows with
  | true =>
      have hr : compute a rows = compute a rows' := by
        simp only [compute, hc, if_true, hp.length_eq]
      rw [← hr]
      cases hf : a.function with
      | count | countDistinct => rfl
      | _ =>
          have hn : compute a rows = .null := by
            simp [compute, hc, hf, AggregateFunction.isCounting]
          rw [hn]
          exact Alike.refl hnull _ _
  | false =>
      rw [compute, compute, if_neg (by simp [hc]), if_neg (by simp [hc])]
      exact ofCells_alike (values_perm hp _) (fun j => isNull_of_mem_values) hnull (ht hc)

/-- A foremost cell is the result for rows that begin with its own. -/
theorem compute_of_front {a : AggregateField} {rows rest : List Row} {r : Row}
    (hp : rows.Perm (r :: rest)) (hc : a.countsRows = false) {order : Json → Json → Ordering}
    (ho : orderFor? (values (outputName a.field) rows) a.function = some order) {x : Json}
    (hx : Foremost order (values (outputName a.field) rows) x)
    (hr : r.get? (outputName a.field) = some x) : compute a (r :: rest) = x := by
  have hv := values_perm hp (outputName a.field)
  have hcons : values (outputName a.field) (r :: rest) = x :: values (outputName a.field) rest := by
    simp [values, hr, isNull_of_mem_values hx.1]
  have hx' := hx.of_perm hv
  rw [orderFor?_perm hv] at ho
  obtain ⟨_, -⟩ := orderFor?_lawful ho
  rw [compute_of_order hc ho]
  rw [hcons] at hx' ⊢
  exact first_eq_head fun k hk => hx'.2 k (List.mem_cons_of_mem x hk)

theorem ties_equal (f : AggregateFunction) (cells : List Json) :
    Ties (fun j k => Cell.equal j k = true) f cells := by
  intro hn order ho j k hj hk
  obtain ⟨_, -⟩ := orderFor?_lawful ho
  exact equal_of_level hn hj.1 hk.1 (extremeOrder_of_orderFor? ho (hj.order_eq hk))

end Aggregate
end TableQuery
