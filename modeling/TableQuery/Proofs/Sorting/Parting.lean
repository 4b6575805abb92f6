import TableQuery.Proofs.Sorting.Runs

namespace TableQuery.Sorting

open Std (OrientedCmp)

variable {α β : Type} {order : α → α → Ordering}

section Pivot

variable {xs : List α}

theorem median_eq (order : α → α → Ordering) (xs : List α) (a b c : Nat) :
    median order xs a b c = a ∨ median order xs a b c = b ∨ median order xs a b c = c := by
  unfold median
  dsimp only
  split
  · split <;> simp
  · simp

theorem wideMedian_lt (order : α → α → Ordering) (xs : List α) (a b c n : Nat) (hn : 0 < n) :
    wideMedian order xs a b c n < max a (max b c) + n := by
  fun_induction wideMedian order xs a b c n with
  | case1 a b c n h =>
      rcases median_eq order xs a b c with hm | hm | hm <;> omega
  | case2 a b c n h m iha ihb ihc =>
      have hm : 0 < m := by omega
      have hle : m * 8 ≤ n := Nat.div_mul_le_self n 8
      have ha := iha hm
      have hb := ihb hm
      have hc := ihc hm
      generalize wideMedian order xs a (a + m * 4) (a + m * 7) m = i at *
      generalize wideMedian order xs b (b + m * 4) (b + m * 7) m = j at *
      generalize wideMedian order xs c (c + m * 4) (c + m * 7) m = k at *
      rcases median_eq order xs i j k with h | h | h <;> rw [h] <;> omega

theorem pivotPlace_lt (order : α → α → Ordering) (h : shortLength < xs.length) :
    pivotPlace order xs < xs.length := by
  unfold shortLength at h
  have hlt := wideMedian_lt order xs 0 (xs.length / 8 * 4) (xs.length / 8 * 7) (xs.length / 8)
    (by omega)
  unfold pivotPlace
  dsimp only
  omega

end Pivot

section Parts

variable [OrientedCmp order] {items xs as bs : List α} {ancestor : Option α}

/-- Both sides of a pivot among `xs`, where it is known to be level with all items that it is not less
than, and else the sides of those less than it and of the others. -/
theorem quicksort?_succ (order : α → α → Ordering) [OrientedCmp order] (size limit : Nat)
    (ancestor : Option α) (h : shortLength < xs.length) :
    ∃ pivot ∈ xs, quicksort? order size (limit + 1) ancestor xs =
      if ancestor.any (fun a => order a pivot ≠ .lt) ||
          (xs.filter fun x => order x pivot = .lt).isEmpty then
        (quicksort? order size limit none (xs.filter fun x => order pivot x = .lt)).map
          (xs.filter (fun x => !decide (order pivot x = .lt)) ++ ·)
      else
        (quicksort? order size limit (some pivot)
          (xs.filter fun x => !decide (order x pivot = .lt))).bind fun right =>
            (quicksort? order size limit ancestor
              (xs.filter fun x => order x pivot = .lt)).map (· ++ right) := by
  have hlt := pivotPlace_lt order h
  refine ⟨xs[pivotPlace order xs], List.getElem_mem hlt, ?_⟩
  have hsplit : xs.splitAt (pivotPlace order xs) = (xs.take (pivotPlace order xs),
      xs[pivotPlace order xs] :: xs.drop (pivotPlace order xs + 1)) := by
    rw [List.splitAt_eq, List.drop_eq_getElem_cons hlt]
  have hxs : xs = xs.take (pivotPlace order xs) ++
      xs[pivotPlace order xs] :: xs.drop (pivotPlace order xs + 1) := by
    rw [← List.drop_eq_getElem_cons hlt, List.take_append_drop]
  rw [quicksort?, if_neg (by omega), hsplit]
  generalize xs[pivotPlace order xs] = pivot at *
  generalize xs.take (pivotPlace order xs) = before at *
  generalize xs.drop (pivotPlace order xs + 1) = after at *
  subst hxs
  simp [List.filter_append, Std.ReflCmp.compare_self, Option.map_eq_bind]

omit [OrientedCmp order] in
theorem append_isSort {p : α → Bool} (ha : IsSort order items (xs.filter p) as)
    (hb : IsSort order items (xs.filter fun x => !p x) bs)
    (hlt : TransitiveOn order items → ∀ x ∈ xs, ∀ y ∈ xs, p x = true → p y = false →
      order x y = .lt) : IsSort order items xs (as ++ bs) where
  perm := (ha.perm.append hb.perm).trans (List.filter_append_perm p xs)
  stable ht earlier he := by
    refine List.pairwise_append.mpr ⟨ha.stable ht earlier (he.sublist List.filter_sublist),
      hb.stable ht earlier (he.sublist List.filter_sublist), fun x hx y hy => .inl ?_⟩
    obtain ⟨hx, hpx⟩ := List.mem_filter.mp (ha.perm.mem_iff.mp hx)
    obtain ⟨hy, hpy⟩ := List.mem_filter.mp (hb.perm.mem_iff.mp hy)
    exact hlt ht x hx y hy hpx (by simpa using hpy)

theorem less_append_isSort {pivot : α} (hp : pivot ∈ items) (hs : xs ⊆ items)
    (ha : IsSort order items (xs.filter fun x => order x pivot = .lt) as)
    (hb : IsSort order items (xs.filter fun x => !decide (order x pivot = .lt)) bs) :
    IsSort order items xs (as ++ bs) := by
  refine append_isSort ha hb fun ht x hx y hy hxp hyp => ?_
  rw [decide_eq_true_eq] at hxp
  rw [decide_eq_false_iff_not] at hyp
  exact ht.lt_of_lt_of_isLE (hs hx) hp (hs hy) hxp (isLE_of_not_lt hyp)

/-- Where no item is less than the pivot, those that it is not less than are in order as they stand. -/
theorem level_append_isSort {pivot : α} (hp : pivot ∈ items) (hs : xs ⊆ items)
    (hge : TransitiveOn order items → ∀ x ∈ xs, (order pivot x).isLE)
    (hb : IsSort order items (xs.filter fun x => order pivot x = .lt) bs) :
    IsSort order items xs (xs.filter (fun x => !decide (order pivot x = .lt)) ++ bs) := by
  have hlevel {x : α} (hx : decide (order pivot x = .lt) = false) : (order x pivot).isLE :=
    isLE_of_not_lt (of_decide_eq_false hx)
  refine append_isSort ⟨.rfl, fun ht earlier he => ?_⟩ (by simpa using hb)
    fun ht x hx y hy hxp hyp => ?_
  · refine he.imp_of_mem fun {x y} hx hy hearlier => .of_isLE ?_ hearlier
    obtain ⟨hmemx, hxp⟩ := List.mem_filter.mp hx
    obtain ⟨hmemy, -⟩ := List.mem_filter.mp hy
    exact ht x (hs hmemx) pivot hp y (hs hmemy) (hlevel (by simpa using hxp)) (hge ht y hmemy)
  · exact ht.lt_of_isLE_of_lt (hs hx) hp (hs hy) (hlevel (by simpa using hxp)) (by simpa using hyp)

theorem isLE_of_level {pivot : α} (hp : pivot ∈ xs) (hs : xs ⊆ items)
    (ha : ∀ a ∈ ancestor, a ∈ items ∧ ∀ x ∈ xs, order x a ≠ .lt)
    (h : (ancestor.any (fun a => order a pivot ≠ .lt) ||
      (xs.filter fun x => order x pivot = .lt).isEmpty) = true)
    (ht : TransitiveOn order items) {x : α} (hx : x ∈ xs) : (order pivot x).isLE := by
  rcases Bool.or_eq_true_iff.mp h with hany | hempty
  · obtain ⟨a, hmem, hap⟩ := (Option.any_eq_true _ _).mp hany
    obtain ⟨hitem, hleast⟩ := ha a hmem
    have hpa : (order pivot a).isLE := isLE_of_not_lt (by simpa using hap)
    exact ht pivot (hs hp) a hitem x (hs hx) hpa (isLE_of_not_lt (hleast x hx))
  · have hnone := List.filter_eq_nil_iff.mp (List.isEmpty_iff.mp hempty) x hx
    exact isLE_of_not_lt (by simpa using hnone)

/-- The `ancestor` stands among the items to the left and is not greater than any of `xs`. -/
theorem quicksort?_sorts (size limit : Nat) (ancestor : Option α) (hs : xs ⊆ items)
    (ha : ∀ a ∈ ancestor, a ∈ items ∧ ∀ x ∈ xs, order x a ≠ .lt) :
    Sorts order items xs (quicksort? order size limit ancestor xs) := by
  induction limit generalizing ancestor xs with
  | zero =>
      rw [quicksort?]
      split
      · exact sortShort?_sorts size hs
      · exact byRuns?_sorts (fun _ => sortShort?_sorts size) size true hs
  | succ limit ih =>
      by_cases hl : xs.length ≤ shortLength
      · rw [quicksort?, if_pos hl]
        exact sortShort?_sorts size hs
      · obtain ⟨pivot, hp, heq⟩ :=
          quicksort?_succ order size limit ancestor (Nat.lt_of_not_le hl)
        have hfilter (p : α → Bool) : xs.filter p ⊆ items := fun a ha =>
          hs (List.mem_of_mem_filter ha)
        rw [heq]
        split
        · rename_i hlevel
          exact (ih none (hfilter _) (by simp)).map fun greater hgreater =>
            level_append_isSort (hs hp) hs (fun ht x => isLE_of_level hp hs ha hlevel ht) hgreater
        · refine (ih (some pivot) (hfilter _) fun a ha' => ?_).bind fun right hright => ?_
          · obtain rfl := Option.mem_some.mp ha'
            refine ⟨hs hp, fun x hx => ?_⟩
            simpa using (List.mem_filter.mp hx).2
          · refine (ih ancestor (hfilter _) fun a ha' => ⟨(ha a ha').1, fun x hx => ?_⟩).map
              fun left hleft => less_append_isSort (hs hp) hs hleft hright
            exact (ha a ha').2 x (List.mem_of_mem_filter hx)

end Parts

section Sorted

variable [OrientedCmp order] {size : Nat} {xs ys : List α}

/-- Items are sorted stably if their order is transitive, and else put in some order, if there is a
result at all. -/
theorem sort?_sorts (order : α → α → Ordering) [OrientedCmp order] (size : Nat) (xs : List α) :
    Sorts order xs xs (sort? order size xs) := by
  unfold sort?
  split
  · exact .of_holds (byInsertion_isSort (List.Subset.refl xs))
  · exact byRuns?_sorts (fun ys hys => quicksort?_sorts size _ none hys (by simp)) size _
      (List.Subset.refl xs)

theorem sort?_perm (h : sort? order size xs = some ys) : ys.Perm xs :=
  ((sort?_sorts order size xs).holds ys h).perm

/-- A sort breaks off only where there are many items and their order is not transitive. -/
theorem not_transitive_of_sort?_eq_none (h : sort? order size xs = none) :
    insertionLength < xs.length ∧ ¬TransitiveOn order xs := by
  constructor
  · by_contra hn
    rw [sort?, if_pos (Nat.le_of_not_lt hn)] at h
    cases h
  · intro ht
    obtain ⟨ys, hys⟩ := (sort?_sorts order size xs).exists_some ht
    rw [h] at hys
    cases hys

end Sorted

section Map

variable {order' : β → β → Ordering} {f : α → β} (h : ∀ a b, order a b = order' (f a) (f b))

include h

theorem map_isLessAt (xs : List α) (i j : Nat) :
    isLessAt order xs i j = isLessAt order' (xs.map f) i j := by
  rw [isLessAt, isLessAt, List.getElem?_map, List.getElem?_map]
  cases xs[i]? with
  | none => rfl
  | some x =>
      cases xs[j]? with
      | none => rfl
      | some y => exact congrArg (fun o => decide (o = .lt)) (h x y)

theorem map_median (xs : List α) (a b c : Nat) :
    median order xs a b c = median order' (xs.map f) a b c := by
  simp only [median, map_isLessAt h]

theorem map_wideMedian (xs : List α) (a b c n : Nat) :
    wideMedian order xs a b c n = wideMedian order' (xs.map f) a b c n := by
  fun_induction wideMedian order xs a b c n with
  | case1 a b c n hn => rw [wideMedian, if_pos hn, map_median h]
  | case2 a b c n hn m iha ihb ihc =>
      rw [wideMedian.eq_def order', if_neg hn, map_median h, iha, ihb, ihc]

theorem map_pivotPlace (xs : List α) : pivotPlace order xs = pivotPlace order' (xs.map f) := by
  simp only [pivotPlace, List.length_map, map_wideMedian h]

theorem map_eagerly? (size : Nat) (xs : List α) :
    (eagerly? order size xs).map (List.map f) = eagerly? order' size (xs.map f) := by
  rw [eagerly?, eagerly?, List.length_map]
  exact map_byRuns? h _ (map_sortShort? h size) size true xs

theorem map_quicksort? (size limit : Nat) (ancestor : Option α) (xs : List α) :
    (quicksort? order size limit ancestor xs).map (List.map f) =
      quicksort? order' size limit (ancestor.map f) (xs.map f) := by
  induction limit generalizing ancestor xs with
  | zero =>
      rw [quicksort?, quicksort?, List.length_map]
      split
      · exact map_sortShort? h size xs
      · exact map_eagerly? h size xs
  | succ limit ih =>
      rw [quicksort?, quicksort?, List.length_map]
      split
      · exact map_sortShort? h size xs
      · rw [← map_pivotPlace h, List.splitAt_eq, List.splitAt_eq, ← List.map_take, ← List.map_drop]
        generalize xs.take (pivotPlace order xs) = before
        cases xs.drop (pivotPlace order xs) with
        | nil => rfl
        | cons pivot after =>
            simp only [List.map_cons, List.filter_map, Function.comp_def, ← h, ← List.map_append,
              Option.any_map, List.isEmpty_map]
            simp only [← List.map_cons, ← List.map_append]
            split
            · have hg := ih none (before.filter (fun x => order pivot x = .lt) ++
                after.filter fun x => order pivot x = .lt)
              rw [Option.map_none] at hg
              rw [← hg]
              cases quicksort? order size limit none _ with
              | none => rfl
              | some greater => exact congrArg some List.map_append
            · have hr := ih (some pivot) (before.filter (fun x => !decide (order x pivot = .lt)) ++
                pivot :: after.filter fun x => !decide (order x pivot = .lt))
              rw [Option.map_some] at hr
              rw [← hr, ← ih]
              cases quicksort? order size limit (some pivot) _ with
              | none => rfl
              | some right =>
                  cases quicksort? order size limit ancestor _ with
                  | none => rfl
                  | some left => exact congrArg some List.map_append

theorem map_sort? (size : Nat) (xs : List α) :
    (sort? order size xs).map (List.map f) = sort? order' size (xs.map f) := by
  rw [sort?, sort?, List.length_map]
  split
  · exact congrArg some (map_byInsertion h xs)
  · refine map_byRuns? h _ (fun ys => ?_) size _ xs
    rw [map_quicksort? h, List.length_map]
    rfl

end Map

end TableQuery.Sorting
