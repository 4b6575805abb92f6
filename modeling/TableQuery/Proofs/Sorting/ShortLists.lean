import TableQuery.Proofs.Sorting.Merging

namespace TableQuery.Sorting

open Std (OrientedCmp)

variable {α β : Type} {order : α → α → Ordering} {earlier : α → α → Prop}

section Four

variable {items as bs : List α} {a b c d w x y z : α}

theorem sortTwo_perm (order : α → α → Ordering) (x y : α) :
    [(sortTwo order x y).1, (sortTwo order x y).2].Perm [x, y] := by
  unfold sortTwo
  split
  · exact .swap x y []
  · rfl

theorem sortTwo_before (h : order y x ≠ .lt → Before order earlier x y) :
    Before order earlier (sortTwo order x y).1 (sortTwo order x y).2 := by
  unfold sortTwo
  split
  · exact .inl ‹_›
  · exact h ‹_›

theorem sortTwo_isSort [OrientedCmp order] (items : List α) (x y : α) :
    IsSort order items [x, y] [(sortTwo order x y).1, (sortTwo order x y).2] where
  perm := sortTwo_perm order x y
  stable _ _ he := by
    rw [List.pairwise_pair] at he ⊢
    exact sortTwo_before fun h => .of_isLE (isLE_of_not_lt h) he

theorem pairwise_sortTwo (hx : Before order earlier w x) (hy : Before order earlier w y)
    (hxz : Before order earlier x z) (hyz : Before order earlier y z)
    (hwz : Before order earlier w z) (h : order y x ≠ .lt → Before order earlier x y) :
    [w, (sortTwo order x y).1, (sortTwo order x y).2, z].Pairwise (Before order earlier) := by
  have hmem {m : α} (hm : m ∈ [(sortTwo order x y).1, (sortTwo order x y).2]) : m = x ∨ m = y := by
    simpa using (sortTwo_perm order x y).mem_iff.mp hm
  have hmiddle {m : α} (hm : m ∈ [(sortTwo order x y).1, (sortTwo order x y).2]) :
      Before order earlier w m ∧ Before order earlier m z := by
    rcases hmem hm with rfl | rfl
    · exact ⟨hx, hxz⟩
    · exact ⟨hy, hyz⟩
  have hone := hmiddle List.mem_cons_self
  have htwo := hmiddle (List.mem_cons_of_mem _ List.mem_cons_self)
  simp [hone, htwo, hwz, sortTwo_before h]

theorem mergePairs_perm (order : α → α → Ordering) (a b c d : α) :
    (mergePairs order a b c d).Perm [a, b, c, d] := by
  have hmiddle (w x y z : α) : [w, (sortTwo order x y).1, (sortTwo order x y).2, z].Perm [w, x, y, z] :=
    ((sortTwo_perm order x y).append_right [z]).cons w
  unfold mergePairs
  refine (hmiddle _ _ _ _).trans ?_
  rw [← Multiset.coe_eq_coe]
  by_cases hca : order c a = .lt <;> by_cases hdb : order d b = .lt <;>
    simp only [hca, hdb, if_true, if_false, ← Multiset.cons_coe, Multiset.cons_swap]

theorem pairwise_mergePairs [OrientedCmp order] (ht : TransitiveOn order [a, b, c, d])
    (hab : Before order earlier a b) (hcd : Before order earlier c d)
    (he : ∀ x ∈ [a, b], ∀ y ∈ [c, d], earlier x y) :
    (mergePairs order a b c d).Pairwise (Before order earlier) := by
  have hac : earlier a c := he a (by simp) c (by simp)
  have had : earlier a d := he a (by simp) d (by simp)
  have hbc : earlier b c := he b (by simp) c (by simp)
  have hbd : earlier b d := he b (by simp) d (by simp)
  by_cases hca : order c a = .lt
  · by_cases hdb : order d b = .lt
    · simp only [mergePairs, hca, hdb, if_true]
      refine pairwise_sortTwo (.inl hca) hcd hab (.inl hdb) (.inl ?_) fun h => ?_
      · exact ht.lt_of_lt_of_isLE (by simp) (by simp) (by simp) hca hab.isLE
      · exact .of_isLE (isLE_of_not_lt h) had
    · simp only [mergePairs, hca, hdb, if_true, if_false]
      have hbd' := isLE_of_not_lt hdb
      refine pairwise_sortTwo (.inl hca) (.inl ?_) (.of_isLE ?_ had) (.of_isLE hbd' hbd) hcd
        fun _ => hab
      · exact ht.lt_of_lt_of_isLE (by simp) (by simp) (by simp) hca hab.isLE
      · exact ht a (by simp) b (by simp) d (by simp) hab.isLE hbd'
  · have hac' := isLE_of_not_lt hca
    by_cases hdb : order d b = .lt
    · simp only [mergePairs, hca, hdb, if_true, if_false]
      refine pairwise_sortTwo (.of_isLE hac' hac) (.of_isLE ?_ had) (.inl ?_) (.inl hdb) hab
        fun _ => hcd
      · exact ht a (by simp) c (by simp) d (by simp) hac' hcd.isLE
      · exact ht.lt_of_isLE_of_lt (by simp) (by simp) (by simp) hcd.isLE hdb
    · simp only [mergePairs, hca, hdb, if_false]
      have hbd' := isLE_of_not_lt hdb
      refine pairwise_sortTwo hab (.of_isLE hac' hac) (.of_isLE hbd' hbd) hcd (.of_isLE ?_ had)
        fun h => .of_isLE (isLE_of_not_lt h) hbc
      exact ht a (by simp) b (by simp) d (by simp) hab.isLE hbd'

variable [OrientedCmp order]

theorem mergePairs_isSort (hab : IsSort order items as [a, b]) (hcd : IsSort order items bs [c, d])
    (hs : as ++ bs ⊆ items) : IsSort order items (as ++ bs) (mergePairs order a b c d) := by
  have hperm := hab.perm.append hcd.perm
  refine ⟨(mergePairs_perm order a b c d).trans hperm, fun ht earlier he => ?_⟩
  obtain ⟨hea, heb, hcross⟩ := List.pairwise_append.mp he
  refine pairwise_mergePairs (ht.mono fun x hx => hs (hperm.mem_iff.mp hx))
    (List.pairwise_pair.mp (hab.stable ht earlier hea))
    (List.pairwise_pair.mp (hcd.stable ht earlier heb)) fun x hx y hy => ?_
  exact hcross x (hab.perm.mem_iff.mp hx) y (hcd.perm.mem_iff.mp hy)

theorem sortFour_isSort (hs : [w, x, y, z] ⊆ items) :
    IsSort order items [w, x, y, z] (sortFour order w x y z) :=
  mergePairs_isSort (sortTwo_isSort items w x) (sortTwo_isSort items y z) hs

end Four

section Short

variable [OrientedCmp order] {items xs : List α}

theorem fromFour_isSort (hs : xs ⊆ items) : IsSort order items xs (fromFour order xs) := by
  unfold fromFour
  split
  · rename_i w x y z rest
    exact placeAll_isSort (sortFour_isSort fun a ha => hs (List.mem_append_left rest ha)) hs
  · exact byInsertion_isSort hs

theorem fromEight?_sorts (hs : xs ⊆ items) : Sorts order items xs (fromEight? order xs) := by
  unfold fromEight?
  split
  · rename_i a b c d e f g h rest
    have height : [a, b, c, d] ++ [e, f, g, h] ⊆ items :=
      fun x hx => hs (List.mem_append_left rest hx)
    have hmerged : Sorts order items _ _ :=
      mergeEnds?_sorts (sortFour_isSort fun x hx => height (List.mem_append_left _ hx))
        (sortFour_isSort fun x hx => height (List.mem_append_right _ hx)) height le_rfl (Nat.le_succ _)
    exact hmerged.map fun sorted hsorted => placeAll_isSort hsorted hs
  · exact .of_holds (byInsertion_isSort hs)

theorem sortHalf?_sorts (size n : Nat) (hs : xs ⊆ items) :
    Sorts order items xs (sortHalf? order size n xs) := by
  unfold sortHalf?
  split
  · exact fromEight?_sorts hs
  · split
    · exact .of_holds (fromFour_isSort hs)
    · exact .of_holds (byInsertion_isSort hs)

theorem sortShort?_sorts (size : Nat) (hs : xs ⊆ items) :
    Sorts order items xs (sortShort? order size xs) := by
  have hfront : xs.take (xs.length / 2) ⊆ items := fun x hx => hs (List.mem_of_mem_take hx)
  have hback : xs.drop (xs.length / 2) ⊆ items := fun x hx => hs (List.mem_of_mem_drop hx)
  refine (sortHalf?_sorts size xs.length hfront).bind fun front hf => ?_
  refine (sortHalf?_sorts size xs.length hback).bind fun back hb => ?_
  have hfl := hf.perm.length_eq
  have hbl := hb.perm.length_eq
  rw [List.length_take] at hfl
  rw [List.length_drop] at hbl
  have hmerged := mergeEnds?_sorts hf hb (by rwa [List.take_append_drop]) (by omega) (by omega)
  rwa [List.take_append_drop] at hmerged

end Short

section Map

variable {order' : β → β → Ordering} {f : α → β} (h : ∀ a b, order a b = order' (f a) (f b))

include h

theorem map_sortTwo (x y : α) :
    sortTwo order' (f x) (f y) = (f (sortTwo order x y).1, f (sortTwo order x y).2) := by
  rw [sortTwo, sortTwo, ← h]
  split <;> rfl

theorem map_mergePairs (a b c d : α) :
    (mergePairs order a b c d).map f = mergePairs order' (f a) (f b) (f c) (f d) := by
  simp only [mergePairs, ← h, ← apply_ite f, map_sortTwo h, List.map_cons, List.map_nil]

theorem map_sortFour (w x y z : α) :
    (sortFour order w x y z).map f = sortFour order' (f w) (f x) (f y) (f z) := by
  rw [sortFour, map_mergePairs h, sortFour, map_sortTwo h, map_sortTwo h]

theorem map_fromFour (xs : List α) : (fromFour order xs).map f = fromFour order' (xs.map f) := by
  rcases xs with _ | ⟨w, _ | ⟨x, _ | ⟨y, _ | ⟨z, rest⟩⟩⟩⟩
  case cons.cons.cons.cons => exact (map_placeAll h _ rest).trans (by rw [map_sortFour h]; rfl)
  all_goals exact map_byInsertion h _

def Ends.map (f : α → β) (e : Ends α) : Ends β := ⟨e.taken.map f, e.left.map f, e.right.map f⟩

theorem map_takeFirst (n : Nat) (xs ys : List α) :
    (takeFirst order n xs ys).map f = takeFirst order' n (xs.map f) (ys.map f) := by
  fun_induction takeFirst order n xs ys with
  | case1 n x xs y ys hlt e ih =>
      rw [List.map_cons, List.map_cons, takeFirst, ← h, if_pos hlt, ← List.map_cons, ← ih]
      rfl
  | case2 n x xs y ys hlt e ih =>
      rw [List.map_cons, List.map_cons, takeFirst, ← h, if_neg hlt, ← List.map_cons, ← ih]
      rfl
  | case3 n xs ys hn =>
      cases n with
      | zero => rfl
      | succ n =>
          cases xs with
          | nil => rfl
          | cons x xs =>
              cases ys with
              | nil => rfl
              | cons y ys => exact absurd rfl (hn n x xs y ys rfl rfl)

theorem map_mergeEnds? (xs ys : List α) :
    (mergeEnds? order xs ys).map (List.map f) = mergeEnds? order' (xs.map f) (ys.map f) := by
  have hfront := map_takeFirst h xs.length xs ys
  have hback : (takeFirst (fun x y => order y x) xs.length ys.reverse xs.reverse).map f =
      takeFirst (fun x y => order' y x) xs.length (ys.reverse.map f) (xs.reverse.map f) :=
    map_takeFirst (fun a b => h b a) _ _ _
  simp only [mergeEnds?, List.length_map, ← List.map_reverse, ← hfront, ← hback, Ends.map]
  split
  · simp
  · rfl

theorem map_fromEight? (xs : List α) :
    (fromEight? order xs).map (List.map f) = fromEight? order' (xs.map f) := by
  rcases xs with _ | ⟨a, _ | ⟨b, _ | ⟨c, _ | ⟨d, _ | ⟨e, _ | ⟨i, _ | ⟨j, _ | ⟨k, rest⟩⟩⟩⟩⟩⟩⟩⟩
  case cons.cons.cons.cons.cons.cons.cons.cons =>
    have hmerged := map_mergeEnds? h (sortFour order a b c d) (sortFour order e i j k)
    rw [map_sortFour h, map_sortFour h] at hmerged
    simp only [fromEight?, List.map_cons, ← hmerged, Option.map_map]
    congr 1
    exact funext fun sorted => map_placeAll h sorted rest
  all_goals exact congrArg some (map_byInsertion h _)

theorem map_sortHalf? (size n : Nat) (xs : List α) :
    (sortHalf? order size n xs).map (List.map f) = sortHalf? order' size n (xs.map f) := by
  unfold sortHalf?
  split
  · exact map_fromEight? h xs
  · split
    · exact congrArg some (map_fromFour h xs)
    · exact congrArg some (map_byInsertion h xs)

theorem map_sortShort? (size : Nat) (xs : List α) :
    (sortShort? order size xs).map (List.map f) = sortShort? order' size (xs.map f) := by
  simp only [sortShort?, List.length_map, ← List.map_take, ← List.map_drop, ← map_sortHalf? h]
  cases sortHalf? order size xs.length (xs.take (xs.length / 2)) with
  | none => rfl
  | some front =>
      cases sortHalf? order size xs.length (xs.drop (xs.length / 2)) with
      | none => rfl
      | some back => exact map_mergeEnds? h front back

end Map

end TableQuery.Sorting
