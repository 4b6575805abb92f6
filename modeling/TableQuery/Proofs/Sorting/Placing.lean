import TableQuery.Proofs.Rows.CellOrder
import TableQuery.Sorting.Short

namespace TableQuery

open Std (OrientedCmp)

namespace TransitiveOn

variable {α : Type} {order : α → α → Ordering} {items : List α}

theorem mono (h : TransitiveOn order items) {xs : List α} (hs : xs ⊆ items) :
    TransitiveOn order xs :=
  fun a ha b hb c hc => h a (hs ha) b (hs hb) c (hs hc)

variable [OrientedCmp order] {a b c : α}

theorem lt_of_lt_of_isLE (h : TransitiveOn order items) (ha : a ∈ items) (hb : b ∈ items)
    (hc : c ∈ items) (hab : order a b = .lt) (hbc : (order b c).isLE) : order a c = .lt := by
  apply OrientedCmp.lt_of_not_isLE
  intro hca
  exact OrientedCmp.not_isLE_of_lt hab (h b hb c hc a ha hbc hca)

theorem lt_of_isLE_of_lt (h : TransitiveOn order items) (ha : a ∈ items) (hb : b ∈ items)
    (hc : c ∈ items) (hab : (order a b).isLE) (hbc : order b c = .lt) : order a c = .lt := by
  apply OrientedCmp.lt_of_not_isLE
  intro hca
  exact OrientedCmp.not_isLE_of_lt hbc (h c hc a ha b hb hca hab)

theorem eq_of_eq_of_eq (h : TransitiveOn order items) (ha : a ∈ items) (hb : b ∈ items)
    (hc : c ∈ items) (hab : order a b = .eq) (hbc : order b c = .eq) : order a c = .eq := by
  apply OrientedCmp.isLE_antisymm
  · exact h a ha b hb c hc (by simp [hab]) (by simp [hbc])
  · exact h c hc b hb a ha (by simp [OrientedCmp.eq_symm hbc]) (by simp [OrientedCmp.eq_symm hab])

end TransitiveOn

namespace Sorting

variable {α β : Type} {order : α → α → Ordering} {earlier : α → α → Prop}

theorem isLE_of_not_lt [OrientedCmp order] {a b : α} (h : order b a ≠ .lt) : (order a b).isLE := by
  by_contra hn
  exact h (OrientedCmp.lt_of_not_isLE hn)

/-- One item stands before another: it is less, or level and earlier. -/
def Before (order : α → α → Ordering) (earlier : α → α → Prop) (a b : α) : Prop :=
  order a b = .lt ∨ order a b = .eq ∧ earlier a b

section Before

theorem Before.isLE {a b : α} (h : Before order earlier a b) : (order a b).isLE := by
  rcases h with h | ⟨h, -⟩ <;> simp [h]

theorem Before.of_isLE {a b : α} (h : (order a b).isLE) (he : earlier a b) :
    Before order earlier a b := by
  cases ho : order a b with
  | lt => exact .inl ho
  | eq => exact .inr ⟨ho, he⟩
  | gt => simp [ho] at h

variable [OrientedCmp order]

theorem Before.asymm (he : ∀ a b, earlier a b → ¬earlier b a) {a b : α}
    (h : Before order earlier a b) : ¬Before order earlier b a := by
  rintro (hba | ⟨hba, hearlier⟩)
  · exact OrientedCmp.not_lt_of_isLE h.isLE hba
  · rcases h with hab | ⟨-, hab⟩
    · simp [OrientedCmp.eq_symm hba] at hab
    · exact he a b hab hearlier

theorem lt_iff_before (he : ∀ a b, earlier a b → ¬earlier b a) {xs : List α}
    (hx : xs.Pairwise (Before order earlier)) {i j : Nat} {a b : α} (ha : xs[i]? = some a)
    (hb : xs[j]? = some b) : i < j ↔ Before order earlier a b := by
  obtain ⟨hi, rfl⟩ := List.getElem?_eq_some_iff.mp ha
  obtain ⟨hj, rfl⟩ := List.getElem?_eq_some_iff.mp hb
  have hp := List.pairwise_iff_getElem.mp hx
  refine ⟨hp i j hi hj, fun hab => ?_⟩
  rcases lt_trichotomy i j with hij | rfl | hij
  · exact hij
  · exact absurd hab (hab.asymm he)
  · exact absurd (hp j i hj hi hij) (hab.asymm he)

end Before

/-- The same items in another order, stably sorted where the order is transitive. -/
structure IsSort (order : α → α → Ordering) (items xs ys : List α) : Prop where
  perm : ys.Perm xs
  stable : TransitiveOn order items → ∀ earlier : α → α → Prop, xs.Pairwise earlier →
    ys.Pairwise (Before order earlier)

/-- A result has a property, and it exists at least where the order is transitive. -/
structure Gives (order : α → α → Ordering) (items : List α) (p : β → Prop) (result? : Option β) :
    Prop where
  holds : ∀ y, result? = some y → p y
  exists_some : TransitiveOn order items → ∃ y, result? = some y

abbrev Sorts (order : α → α → Ordering) (items xs : List α) (sorted? : Option (List α)) : Prop :=
  Gives order items (IsSort order items xs) sorted?

section Results

variable {γ : Type} {items xs ys : List α} {p : β → Prop} {q : γ → Prop} {result? : Option β}

theorem IsSort.isLE (h : IsSort order items xs ys) (ht : TransitiveOn order items) :
    ys.Pairwise fun a b => (order a b).isLE :=
  (h.stable ht (fun _ _ => True) (List.pairwise_of_forall fun _ _ => trivial)).imp Before.isLE

theorem Gives.of_holds {y : β} (h : p y) : Gives order items p (some y) where
  holds _ hs := by
    obtain rfl := Option.some.inj hs
    exact h
  exists_some _ := ⟨y, rfl⟩

theorem Gives.bind (h : Gives order items p result?) {f : β → Option γ}
    (hf : ∀ y, p y → Gives order items q (f y)) : Gives order items q (result?.bind f) where
  holds z hz := by
    obtain ⟨y, hy, hz⟩ := Option.bind_eq_some_iff.mp hz
    exact (hf y (h.holds y hy)).holds z hz
  exists_some ht := by
    obtain ⟨y, hy⟩ := h.exists_some ht
    rw [hy]
    exact (hf y (h.holds y hy)).exists_some ht

theorem Gives.map (h : Gives order items p result?) {f : β → γ} (hf : ∀ y, p y → q (f y)) :
    Gives order items q (result?.map f) := by
  rw [Option.map_eq_bind]
  exact h.bind fun y hy => .of_holds (hf y hy)

end Results

section Placing

theorem place_perm (order : α → α → Ordering) (x : α) (xs : List α) :
    (place order x xs).Perm (x :: xs) := by
  induction xs with
  | nil => rfl
  | cons y ys ih =>
      by_cases h : order x y = .lt
      · rw [place, if_pos h]
        exact (ih.cons y).trans (.swap x y ys)
      · rw [place, if_neg h]

theorem foldl_place_perm (order : α → α → Ordering) (xs placed : List α) :
    (xs.foldl (fun placed x => place order x placed) placed).Perm (placed ++ xs) := by
  induction xs generalizing placed with
  | nil => simp
  | cons x xs ih =>
      have hp := (place_perm order x placed).append_right xs
      exact (ih _).trans (hp.trans List.perm_middle.symm)

variable [OrientedCmp order]

theorem pairwise_place {x : α} {ys : List α} (ht : TransitiveOn order (x :: ys))
    (he : ∀ y ∈ ys, earlier y x) (hy : ys.Pairwise fun a b => Before order earlier b a) :
    (place order x ys).Pairwise fun a b => Before order earlier b a := by
  induction ys with
  | nil => exact List.pairwise_singleton _ x
  | cons y ys ih =>
      obtain ⟨hys, hrest⟩ := List.pairwise_cons.mp hy
      by_cases hx : order x y = .lt
      · rw [place, if_pos hx, List.pairwise_cons]
        constructor
        · intro z hz
          rcases List.mem_cons.mp ((place_perm order x ys).mem_iff.mp hz) with rfl | hz
          · exact .inl hx
          · exact hys z hz
        · refine ih (ht.mono ?_) (fun z hz => he z (List.mem_cons_of_mem y hz)) hrest
          simp
      · rw [place, if_neg hx, List.pairwise_cons]
        refine ⟨fun z hz => ?_, hy⟩
        have hyx : (order y x).isLE := isLE_of_not_lt hx
        apply Before.of_isLE _ (he z hz)
        rcases List.mem_cons.mp hz with rfl | hz
        · exact hyx
        · exact ht z (by simp [hz]) y (by simp) x (by simp) (hys z hz).isLE hyx

theorem pairwise_foldl_place {xs placed : List α} (ht : TransitiveOn order (placed ++ xs))
    (hx : xs.Pairwise earlier) (he : ∀ a ∈ placed, ∀ x ∈ xs, earlier a x)
    (hp : placed.Pairwise fun a b => Before order earlier b a) :
    (xs.foldl (fun placed x => place order x placed) placed).Pairwise
      fun a b => Before order earlier b a := by
  induction xs generalizing placed with
  | nil => exact hp
  | cons x xs ih =>
      obtain ⟨hxs, hrest⟩ := List.pairwise_cons.mp hx
      have hmem {a : α} : a ∈ place order x placed ↔ a = x ∨ a ∈ placed := by
        rw [(place_perm order x placed).mem_iff, List.mem_cons]
      apply ih _ hrest
      · intro a ha y hy
        rcases hmem.mp ha with rfl | ha
        · exact hxs y hy
        · exact he a ha y (List.mem_cons_of_mem x hy)
      · refine pairwise_place (ht.mono ?_) (fun a ha => he a ha x List.mem_cons_self) hp
        intro a ha
        simp only [List.mem_append, List.mem_cons] at ha ⊢
        tauto
      · refine ht.mono ?_
        intro a ha
        simp only [List.mem_append, List.mem_cons, hmem] at ha ⊢
        tauto

variable {items xs ys : List α}

theorem placeAll_isSort {rest : List α} (h : IsSort order items xs ys) (hs : xs ++ rest ⊆ items) :
    IsSort order items (xs ++ rest) (placeAll order ys rest) where
  perm := by
    refine (List.reverse_perm _).trans ((foldl_place_perm order rest _).trans ?_)
    exact ((List.reverse_perm ys).trans h.perm).append_right rest
  stable ht earlier he := by
    obtain ⟨hx, hrest, hcross⟩ := List.pairwise_append.mp he
    rw [placeAll, List.pairwise_reverse]
    refine pairwise_foldl_place (ht.mono ?_) hrest ?_ ?_
    · intro a ha
      refine hs (List.mem_append.mpr ((List.mem_append.mp ha).imp_left fun ha => ?_))
      exact h.perm.mem_iff.mp (List.mem_reverse.mp ha)
    · intro a ha x hx
      exact hcross a (h.perm.mem_iff.mp (List.mem_reverse.mp ha)) x hx
    · exact List.pairwise_reverse.mpr (h.stable ht earlier hx)

theorem byInsertion_isSort (hs : xs ⊆ items) : IsSort order items xs (byInsertion order xs) :=
  have hnil : IsSort order items [] [] := ⟨.nil, fun _ _ _ => .nil⟩
  placeAll_isSort hnil hs

end Placing

section Map

variable {order' : β → β → Ordering} {f : α → β} (h : ∀ a b, order a b = order' (f a) (f b))

include h

theorem map_place (x : α) (ys : List α) :
    (place order x ys).map f = place order' (f x) (ys.map f) := by
  induction ys with
  | nil => rfl
  | cons y ys ih =>
      rw [place, List.map_cons, place, ← h]
      by_cases hx : order x y = .lt
      · rw [if_pos hx, if_pos hx, List.map_cons, ih]
      · rw [if_neg hx, if_neg hx, List.map_cons, List.map_cons]

theorem map_foldl_place (xs placed : List α) :
    (xs.foldl (fun placed x => place order x placed) placed).map f =
      (xs.map f).foldl (fun placed x => place order' x placed) (placed.map f) := by
  induction xs generalizing placed with
  | nil => rfl
  | cons x xs ih => rw [List.foldl_cons, ih, map_place h, List.map_cons, List.foldl_cons]

theorem map_placeAll (sorted rest : List α) :
    (placeAll order sorted rest).map f = placeAll order' (sorted.map f) (rest.map f) := by
  rw [placeAll, List.map_reverse, map_foldl_place h, List.map_reverse, placeAll]

theorem map_byInsertion (xs : List α) :
    (byInsertion order xs).map f = byInsertion order' (xs.map f) := map_placeAll h [] xs

end Map
end Sorting
end TableQuery
