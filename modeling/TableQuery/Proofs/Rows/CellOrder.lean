import Mathlib.Data.List.ReduceOption
import Mathlib.Data.String.Basic
import TableQuery.Proofs.Rows.FloatOrder

namespace TableQuery

open Std (OrientedCmp OrientedOrd TransCmp TransOrd LawfulEqCmp LawfulEqOrd)

/-- Whether an order is transitive among the given items. -/
def TransitiveOn {α : Type} (order : α → α → Ordering) (items : List α) : Prop :=
  ∀ a ∈ items, ∀ b ∈ items, ∀ c ∈ items, (order a b).isLE → (order b c).isLE → (order a c).isLE

namespace TransitiveOn

variable {α β : Type} {order : α → α → Ordering} {items : List α}

theorem opposite (h : TransitiveOn order items) : TransitiveOn (fun a b => order b a) items :=
  fun a ha b hb c hc hab hbc => h c hc b hb a ha hbc hab

theorem map_iff {order : β → β → Ordering} {f : α → β} :
    TransitiveOn (fun a b => order (f a) (f b)) items ↔ TransitiveOn order (items.map f) := by
  simp only [TransitiveOn, List.forall_mem_map]

theorem lexicographic [OrientedCmp order] {next : α → α → Ordering} (h : TransitiveOn order items)
    (hn : TransitiveOn next items) :
    TransitiveOn (fun a b => (order a b).then (next a b)) items := by
  intro a ha b hb c hc hab hbc
  obtain ⟨hab, hab'⟩ := Ordering.isLE_then_iff_and.mp hab
  obtain ⟨hbc, hbc'⟩ := Ordering.isLE_then_iff_and.mp hbc
  have hac := h a ha b hb c hc hab hbc
  rw [Ordering.isLE_then_iff_or]
  cases hco : order a c with
  | lt => exact .inl rfl
  | gt => simp [hco] at hac
  | eq =>
      have hca : (order c a).isLE := Ordering.isLE_of_eq_eq (OrientedCmp.eq_symm hco)
      have hba : order a b = .eq := OrientedCmp.isLE_antisymm hab (h b hb c hc a ha hbc hca)
      have hcb : order b c = .eq := OrientedCmp.isLE_antisymm hbc (h c hc a ha b hb hca hab)
      rw [hba] at hab'
      rw [hcb] at hbc'
      exact .inr ⟨rfl, hn a ha b hb c hc (by simpa using hab') (by simpa using hbc')⟩

end TransitiveOn

namespace Cell

theorem compareStrings_eq_compare (a b : String) : compareStrings a b = Ord.compare a b := by
  change compareStrings a b = compareOfLessAndEq a b
  unfold compareStrings compareOfLessAndEq
  rcases lt_trichotomy a b with h | h | h
  · simp [h]
  · simp [h]
  · simp [h, h.not_gt, h.ne']

theorem compareText_eq_compareLex :
    compareText = compareLex (compareOn Text.lowercase) (fun a b => Ord.compare b a) := by
  funext a b
  simp only [compareText, compareStrings_eq_compare, compareLex, compareOn]

instance : TransCmp compareText := by
  rw [compareText_eq_compareLex]
  infer_instance

instance : LawfulEqCmp compareText where
  eq_of_compare {a b} h := by
    rw [compareText, Ordering.then_eq_eq, compareStrings_eq_compare, compareStrings_eq_compare] at h
    exact (LawfulEqOrd.eq_of_compare h.2).symm

def compareAsTexts (a b : Json) : Ordering :=
  compareText ((text? a).getD "") ((text? b).getD "")

instance : TransCmp compareAsTexts where
  eq_swap {a b} := by
    rw [compareAsTexts, compareAsTexts]
    exact OrientedCmp.eq_swap
  isLE_trans {a b c} hab hbc := by
    rw [compareAsTexts] at *
    exact TransCmp.isLE_trans hab hbc

variable {a b c : Json}

theorem compareValues_of_numbers {x y : Float} (ha : number? a = some x) (hb : number? b = some y) :
    compareValues a b = Ord.compare (FloatOrder.key x) (FloatOrder.key y) := by
  rw [compareValues, ha, hb]
  exact compareFloats_eq_compare_key (number?_isNaN ha) (number?_isNaN hb)

theorem compareValues_of_text_left (h : number? a = none) :
    compareValues a b = compareAsTexts a b := by
  simp [compareValues, h, compareAsTexts]

theorem compareValues_of_text_right (h : number? b = none) :
    compareValues a b = compareAsTexts a b := by
  cases ha : number? a <;> simp [compareValues, ha, h, compareAsTexts]

instance : OrientedCmp compareValues where
  eq_swap {a b} := by
    cases ha : number? a with
    | none =>
        rw [compareValues_of_text_left ha, compareValues_of_text_right ha]
        exact OrientedCmp.eq_swap
    | some x =>
        cases hb : number? b with
        | none =>
            rw [compareValues_of_text_right hb, compareValues_of_text_left hb]
            exact OrientedCmp.eq_swap
        | some y =>
            rw [compareValues_of_numbers ha hb, compareValues_of_numbers hb ha]
            exact OrientedOrd.eq_swap

/-- Wherever a cell that is no number stands between two numbers by text, these two stand as numbers
as they do as texts. -/
def NumbersFollowTexts (cells : List Json) : Prop :=
  ∀ x ∈ cells, ∀ t ∈ cells, ∀ y ∈ cells,
    (number? x).isSome → number? t = none → (number? y).isSome →
      (compareAsTexts x t).isLE → (compareAsTexts t y).isLE → compareValues x y = compareAsTexts x y

theorem compareAsTexts_eq_of_between (hxt : (compareAsTexts a b).isLE)
    (hty : (compareAsTexts b c).isLE) (h : compareAsTexts a c = .eq) :
    compareAsTexts a b = .eq ∧ compareAsTexts b c = .eq := by
  have hca : (compareAsTexts c a).isLE := Ordering.isLE_of_eq_eq (OrientedCmp.eq_symm h)
  exact ⟨OrientedCmp.isLE_antisymm hxt (TransCmp.isLE_trans hty hca),
    OrientedCmp.isLE_antisymm hty (TransCmp.isLE_trans hca hxt)⟩

theorem isLE_of_text_right (h : number? b = none) (hab : (compareAsTexts a b).isLE) :
    (compareValues a b).isLE := by
  rw [compareValues_of_text_right h]
  exact hab

theorem isLE_of_text_left (h : number? a = none) (hab : (compareAsTexts a b).isLE) :
    (compareValues a b).isLE := by
  rw [compareValues_of_text_left h]
  exact hab

theorem NumbersFollowTexts.of_transitiveOn {cells : List Json}
    (h : TransitiveOn compareValues cells) : NumbersFollowTexts cells := by
  intro x hx t ht y hy _ hnt _ hxt hty
  have hle : (compareAsTexts x y).isLE := TransCmp.isLE_trans hxt hty
  have hxy : (compareValues x y).isLE :=
    h x hx t ht y hy (isLE_of_text_right hnt hxt) (isLE_of_text_left hnt hty)
  cases ho : compareAsTexts x y with
  | gt => simp [ho] at hle
  | lt =>
      by_contra hne
      have hs : compareValues y x = (compareValues x y).swap := OrientedCmp.eq_swap
      have hyx : (compareValues y x).isLE := by
        rw [hs]
        revert hxy hne
        cases compareValues x y <;> simp
      have htx : (compareAsTexts t x).isLE := by
        rw [← compareValues_of_text_left hnt]
        exact h t ht y hy x hx (isLE_of_text_left hnt hty) hyx
      have hyt : (compareAsTexts y t).isLE := by
        rw [← compareValues_of_text_right hnt]
        exact h y hy x hx t ht hyx (isLE_of_text_right hnt hxt)
      have hyx' : (compareAsTexts y x).isLE := TransCmp.isLE_trans hyt htx
      exact OrientedCmp.not_isLE_of_lt ho hyx'
  | eq =>
      obtain ⟨hxt', hty'⟩ := compareAsTexts_eq_of_between hxt hty ho
      have hyt : (compareAsTexts y t).isLE := Ordering.isLE_of_eq_eq (OrientedCmp.eq_symm hty')
      have htx : (compareAsTexts t x).isLE := Ordering.isLE_of_eq_eq (OrientedCmp.eq_symm hxt')
      exact OrientedCmp.isLE_antisymm hxy
        (h y hy t ht x hx (isLE_of_text_right hnt hyt) (isLE_of_text_left hnt htx))

theorem NumbersFollowTexts.not_isLE {cells : List Json} (h : NumbersFollowTexts cells)
    {x t y : Json} (hx : x ∈ cells) (ht : t ∈ cells) (hy : y ∈ cells) (hnx : (number? x).isSome)
    (hnt : number? t = none) (hny : (number? y).isSome) (hxt : (compareAsTexts x t).isLE)
    (hty : (compareAsTexts t y).isLE) (hlt : compareAsTexts x y = .lt) :
    ¬(compareValues y x).isLE := by
  apply OrientedCmp.not_isLE_of_lt
  rw [h x hx t ht y hy hnx hnt hny hxt hty]
  exact hlt

theorem NumbersFollowTexts.transitiveOn {cells : List Json} (h : NumbersFollowTexts cells) :
    TransitiveOn compareValues cells := by
  intro a ha b hb c hc hab hbc
  cases hna : number? a with
  | none =>
      rw [compareValues_of_text_left hna] at hab ⊢
      cases hnb : number? b with
      | none =>
          rw [compareValues_of_text_left hnb] at hbc
          exact TransCmp.isLE_trans hab hbc
      | some y =>
          cases hnc : number? c with
          | none =>
              rw [compareValues_of_text_right hnc] at hbc
              exact TransCmp.isLE_trans hab hbc
          | some z =>
              by_contra hac
              have hca : compareAsTexts c a = .lt := OrientedCmp.lt_of_not_isLE hac
              exact h.not_isLE hc ha hb (by simp [hnc]) hna (by simp [hnb])
                (Ordering.isLE_of_eq_lt hca) hab (TransCmp.lt_of_lt_of_isLE hca hab) hbc
  | some x =>
      cases hnb : number? b with
      | none =>
          rw [compareValues_of_text_right hnb] at hab
          rw [compareValues_of_text_left hnb] at hbc
          have hac : (compareAsTexts a c).isLE := TransCmp.isLE_trans hab hbc
          cases hnc : number? c with
          | none => exact isLE_of_text_right hnc hac
          | some z =>
              rw [h a ha b hb c hc (by simp [hna]) hnb (by simp [hnc]) hab hbc]
              exact hac
      | some y =>
          cases hnc : number? c with
          | none =>
              rw [compareValues_of_text_right hnc] at hbc ⊢
              by_contra hac
              have hca : compareAsTexts c a = .lt := OrientedCmp.lt_of_not_isLE hac
              exact h.not_isLE hb hc ha (by simp [hnb]) hnc (by simp [hna]) hbc
                (Ordering.isLE_of_eq_lt hca) (TransCmp.lt_of_isLE_of_lt hbc hca) hab
          | some z =>
              rw [compareValues_of_numbers hna hnb] at hab
              rw [compareValues_of_numbers hnb hnc] at hbc
              rw [compareValues_of_numbers hna hnc]
              exact TransOrd.isLE_trans hab hbc

theorem NumbersFollowTexts.of_uniform {cells : List Json}
    (h : (∀ j ∈ cells, (number? j).isSome) ∨ ∀ j ∈ cells, number? j = none) :
    NumbersFollowTexts cells := by
  intro x hx t ht y _ hnx hnt
  rcases h with h | h
  · simpa [hnt] using h t ht
  · simp [h x hx] at hnx

def present (cells : List (Option Json)) : List Json := cells.reduceOption.filter fun j => !j.isNull

theorem mem_present {cells : List (Option Json)} {j : Json} :
    j ∈ present cells ↔ some j ∈ cells ∧ isMissing (some j) = false := by
  simp [present, isMissing, List.reduceOption_mem_iff]

theorem compare_of_present (ha : isMissing (some a) = false) (hb : isMissing (some b) = false) :
    compare (some a) (some b) = compareValues a b := by
  simp [compare, ha, hb]

theorem compare_missing_left {x : Option Json} (h : isMissing x = true) (y : Option Json) :
    compare x y = if isMissing y then .eq else .gt := by
  cases hy : isMissing y <;> simp [compare, h, hy]

theorem compare_missing_right {y : Option Json} (h : isMissing y = true) (x : Option Json) :
    compare x y = if isMissing x then .eq else .lt := by
  cases hx : isMissing x <;> simp [compare, h, hx]

theorem exists_of_not_isMissing {x : Option Json} (h : isMissing x = false) : ∃ j, x = some j := by
  cases x with
  | none => cases h
  | some j => exact ⟨j, rfl⟩

instance : OrientedCmp compare where
  eq_swap {x y} := by
    cases hx : isMissing x with
    | true =>
        rw [compare_missing_left hx, compare_missing_right hx]
        cases isMissing y <;> rfl
    | false =>
        cases hy : isMissing y with
        | true => simp [compare_missing_left hy, compare_missing_right hy, hx]
        | false =>
            obtain ⟨j, rfl⟩ := exists_of_not_isMissing hx
            obtain ⟨k, rfl⟩ := exists_of_not_isMissing hy
            rw [compare_of_present hx hy, compare_of_present hy hx]
            exact OrientedCmp.eq_swap

theorem compare_transitiveOn_iff_present (cells : List (Option Json)) :
    TransitiveOn compare cells ↔ TransitiveOn compareValues (present cells) := by
  constructor
  · intro h a ha b hb c hc hab hbc
    obtain ⟨ha, ha'⟩ := mem_present.mp ha
    obtain ⟨hb, hb'⟩ := mem_present.mp hb
    obtain ⟨hc, hc'⟩ := mem_present.mp hc
    rw [← compare_of_present ha' hc']
    rw [← compare_of_present ha' hb'] at hab
    rw [← compare_of_present hb' hc'] at hbc
    exact h _ ha _ hb _ hc hab hbc
  · intro h x hx y hy z hz hxy hyz
    cases hz' : isMissing z with
    | true =>
        rw [compare_missing_right hz']
        cases isMissing x <;> rfl
    | false =>
        cases hy' : isMissing y with
        | true => simp [compare_missing_left hy', hz'] at hyz
        | false =>
            cases hx' : isMissing x with
            | true => simp [compare_missing_left hx', hy'] at hxy
            | false =>
                obtain ⟨a, rfl⟩ := exists_of_not_isMissing hx'
                obtain ⟨b, rfl⟩ := exists_of_not_isMissing hy'
                obtain ⟨c, rfl⟩ := exists_of_not_isMissing hz'
                rw [compare_of_present hx' hy'] at hxy
                rw [compare_of_present hy' hz'] at hyz
                rw [compare_of_present hx' hz']
                exact h a (mem_present.mpr ⟨hx, hx'⟩) b (mem_present.mpr ⟨hy, hy'⟩) c
                  (mem_present.mpr ⟨hz, hz'⟩) hxy hyz

theorem compare_transitiveOn_iff (cells : List (Option Json)) :
    TransitiveOn compare cells ↔ NumbersFollowTexts (present cells) := by
  rw [compare_transitiveOn_iff_present]
  exact ⟨NumbersFollowTexts.of_transitiveOn, NumbersFollowTexts.transitiveOn⟩

theorem compare_swap (x y : Option Json) : compare y x = (compare x y).swap := OrientedCmp.eq_swap

theorem compareDirected_swap (x y : Option Json) (d : Direction) :
    compareDirected y x d = (compareDirected x y d).swap := by
  cases d with
  | asc => exact compare_swap x y
  | desc => rw [compareDirected, compareDirected, compare_swap x y]

theorem compareDirected_desc (x y : Option Json) : compareDirected x y .desc = compare y x :=
  (compare_swap x y).symm

theorem compareDirected_transitiveOn_iff (cells : List (Option Json)) (d : Direction) :
    TransitiveOn (fun x y => compareDirected x y d) cells ↔ NumbersFollowTexts (present cells) := by
  rw [← compare_transitiveOn_iff]
  cases d with
  | asc => rfl
  | desc =>
      simp only [compareDirected_desc]
      exact ⟨TransitiveOn.opposite, TransitiveOn.opposite⟩

end Cell
end TableQuery
