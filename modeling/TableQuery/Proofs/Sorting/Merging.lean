import TableQuery.Proofs.Sorting.Placing

namespace TableQuery.Sorting

open Std (OrientedCmp)

variable {α β : Type} {order : α → α → Ordering} {earlier : α → α → Prop}

section Ends

variable {n : Nat} {xs ys us vs : List α}

/-- An end holds the fronts `us` and `vs` of two lists. -/
structure Ends.TakenFrom (e : Ends α) (xs ys us vs : List α) : Prop where
  left : us ++ e.left = xs
  right : vs ++ e.right = ys
  taken : e.taken.Perm (us ++ vs)

/-- No item of the fronts stands behind an item that is left on the other side. -/
structure Ends.Separates (e : Ends α) (order : α → α → Ordering) (us vs : List α) : Prop where
  left : ∀ x ∈ us, ∀ y ∈ e.right, order y x ≠ .lt
  right : ∀ x ∈ e.left, ∀ y ∈ vs, order y x = .lt

/-- The items taken stand in order, before all that are left. -/
structure Ends.InFront (e : Ends α) (before : α → α → Prop) : Prop where
  pairwise : e.taken.Pairwise before
  rest : ∀ a ∈ e.taken, ∀ b, b ∈ e.left ∨ b ∈ e.right → before a b

theorem subset_of_right (y : α) : xs ++ ys ⊆ xs ++ y :: ys :=
  ((List.sublist_cons_self y ys).append_left xs).subset

theorem isLE_head {x : α} (hx : (x :: xs).Pairwise fun a b => (order a b).isLE) [OrientedCmp order] :
    ∀ z ∈ x :: xs, (order x z).isLE := by
  intro z hz
  rcases List.mem_cons.mp hz with rfl | hz
  · simp [Std.ReflCmp.compare_self]
  · exact (List.pairwise_cons.mp hx).1 z hz

theorem exists_takenFrom (order : α → α → Ordering) [OrientedCmp order] (n : Nat)
    (xs ys : List α) :
    ∃ us vs, (takeFirst order n xs ys).TakenFrom xs ys us vs ∧
      (TransitiveOn order (xs ++ ys) → xs.Pairwise (fun a b => (order a b).isLE) →
        ys.Pairwise (fun a b => (order a b).isLE) →
          (takeFirst order n xs ys).Separates order us vs) := by
  fun_induction takeFirst order n xs ys with
  | case1 n x xs y ys hlt e ih =>
      obtain ⟨us, vs, h, hs⟩ := ih
      refine ⟨us, y :: vs, ⟨h.left, ?_, (h.taken.cons y).trans List.perm_middle.symm⟩, ?_⟩
      · exact congrArg (y :: ·) h.right
      · intro ht hx hy
        have hse := hs (ht.mono (subset_of_right y)) hx (List.pairwise_cons.mp hy).2
        refine ⟨hse.left, fun z hz v hv => ?_⟩
        rcases List.mem_cons.mp hv with rfl | hv
        · have hmem : z ∈ x :: xs := by
            rw [← h.left]
            exact List.mem_append_right us hz
          exact ht.lt_of_lt_of_isLE (by simp) (by simp) (List.mem_append_left _ hmem) hlt
            (isLE_head hx z hmem)
        · exact hse.right z hz v hv
  | case2 n x xs y ys hlt e ih =>
      obtain ⟨us, vs, h, hs⟩ := ih
      refine ⟨x :: us, vs, ⟨?_, h.right, h.taken.cons x⟩, ?_⟩
      · exact congrArg (x :: ·) h.left
      · intro ht hx hy
        have hse := hs (ht.mono (by simp)) (List.pairwise_cons.mp hx).2 hy
        refine ⟨fun u hu z hz => ?_, hse.right⟩
        rcases List.mem_cons.mp hu with rfl | hu
        · have hmem : z ∈ y :: ys := by
            rw [← h.right]
            exact List.mem_append_right vs hz
          have huz : (order u z).isLE := ht u (by simp) y (by simp) z
            (List.mem_append_right _ hmem) (isLE_of_not_lt hlt) (isLE_head hy z hmem)
          exact fun hzu => OrientedCmp.not_isLE_of_lt hzu huz
        · exact hse.left u hu z hz
  | case3 n xs ys hn =>
      exact ⟨[], [], ⟨rfl, rfl, .nil⟩, fun _ _ _ => ⟨by simp, by simp⟩⟩

theorem Ends.TakenFrom.subset {e : Ends α} (h : e.TakenFrom xs ys us vs) {z : α}
    (hz : z ∈ e.taken ∨ z ∈ e.left ∨ z ∈ e.right) : z ∈ xs ∨ z ∈ ys := by
  rw [← h.left, ← h.right]
  simp only [List.mem_append]
  rcases hz with hz | hz | hz
  · have := List.mem_append.mp (h.taken.mem_iff.mp hz)
    tauto
  · tauto
  · tauto

theorem length_taken (hx : n ≤ xs.length) (hy : n ≤ ys.length) :
    (takeFirst order n xs ys).taken.length = n := by
  fun_induction takeFirst order n xs ys with
  | case1 n x xs y ys hlt e ih =>
      rw [List.length_cons] at hy
      exact congrArg (· + 1) (ih (Nat.le_of_succ_le hx) (Nat.le_of_succ_le_succ hy))
  | case2 n x xs y ys hlt e ih =>
      rw [List.length_cons] at hx
      exact congrArg (· + 1) (ih (Nat.le_of_succ_le_succ hx) (Nat.le_of_succ_le hy))
  | case3 n xs ys hn =>
      cases n with
      | zero => rfl
      | succ n =>
          cases xs with
          | nil => cases hx
          | cons x xs =>
              cases ys with
              | nil => cases hy
              | cons y ys => exact absurd rfl (hn n x xs y ys rfl rfl)

theorem Ends.InFront.cons {e : Ends α} {before : α → α → Prop} {z : α} (h : e.InFront before)
    (ht : e.TakenFrom xs ys us vs) (hz : ∀ {a}, a ∈ xs ∨ a ∈ ys → before z a) :
    Ends.InFront { e with taken := z :: e.taken } before where
  pairwise := List.pairwise_cons.mpr ⟨fun _ ha => hz (ht.subset (.inl ha)), h.pairwise⟩
  rest a ha b hb := by
    rcases List.mem_cons.mp ha with rfl | ha
    · exact hz (ht.subset (.inr hb))
    · exact h.rest a ha b hb

theorem takeFirst_inFront [OrientedCmp order] (ht : TransitiveOn order (xs ++ ys))
    (he : ∀ x ∈ xs, ∀ y ∈ ys, earlier x y) (hx : xs.Pairwise (Before order earlier))
    (hy : ys.Pairwise (Before order earlier)) :
    (takeFirst order n xs ys).InFront (Before order earlier) := by
  fun_induction takeFirst order n xs ys with
  | case1 n x xs y ys hlt e ih =>
      obtain ⟨hys, hy'⟩ := List.pairwise_cons.mp hy
      have hrest := ih (ht.mono (subset_of_right y))
        (fun a ha b hb => he a ha b (List.mem_cons_of_mem y hb)) hx hy'
      obtain ⟨us, vs, h, -⟩ := exists_takenFrom order n (x :: xs) ys
      have hfirst {z : α} (hz : z ∈ x :: xs ∨ z ∈ ys) : Before order earlier y z := by
        refine hz.elim (fun hz => .inl ?_) (hys z)
        exact ht.lt_of_lt_of_isLE (by simp) (by simp) (List.mem_append_left _ hz) hlt
          (isLE_head (hx.imp Before.isLE) z hz)
      exact hrest.cons h hfirst
  | case2 n x xs y ys hlt e ih =>
      obtain ⟨hxs, hx'⟩ := List.pairwise_cons.mp hx
      have hrest := ih (ht.mono (by simp))
        (fun a ha b hb => he a (List.mem_cons_of_mem x ha) b hb) hx' hy
      obtain ⟨us, vs, h, -⟩ := exists_takenFrom order n xs (y :: ys)
      have hfirst {z : α} (hz : z ∈ xs ∨ z ∈ y :: ys) : Before order earlier x z := by
        refine hz.elim (hxs z) fun hz => .of_isLE ?_ (he x List.mem_cons_self z hz)
        exact ht x (by simp) y (by simp) z (List.mem_append_right _ hz) (isLE_of_not_lt hlt)
          (isLE_head (hy.imp Before.isLE) z hz)
      exact hrest.cons h hfirst
  | case3 n xs ys hn => exact ⟨.nil, by simp⟩

end Ends

section Meeting

variable {xs ys us vs ws zs left right : List α}

theorem exists_middle (h : us ++ left = right ++ zs) (hl : us.length ≤ right.length) :
    ∃ middle, right = us ++ middle ∧ left = middle ++ zs ∧
      left.take (left.length + right.length - (us ++ left).length) = middle := by
  have hm : ∃ middle, right = us ++ middle ∧ left = middle ++ zs := by
    rcases List.append_eq_append_iff.mp h with ⟨middle, hr, hleft⟩ | ⟨rest, rfl, rfl⟩
    · exact ⟨middle, hr, hleft⟩
    · rw [List.length_append] at hl
      obtain rfl := List.length_eq_zero_iff.mp (show rest.length = 0 by omega)
      exact ⟨[], by simp, rfl⟩
  obtain ⟨middle, hr, hleft⟩ := hm
  refine ⟨middle, hr, hleft, ?_⟩
  have hn : left.length + right.length - (us ++ left).length = middle.length := by
    rw [hr, List.length_append, List.length_append]
    omega
  rw [hn, hleft]
  exact List.take_left

theorem exists_common (h : us ++ left = right ++ zs) (hl : right.length < us.length) :
    ∃ x, x ∈ us ∧ x ∈ zs := by
  rcases List.append_eq_append_iff.mp h with ⟨rest, rfl, -⟩ | ⟨rest, rfl, rfl⟩
  · rw [List.length_append] at hl
    omega
  · cases rest with
    | nil => simp at hl
    | cons x rest => exact ⟨x, by simp, by simp⟩

variable {front back : Ends α} (hf : front.TakenFrom xs ys us vs)
  (hb : back.TakenFrom ys.reverse xs.reverse ws zs)

include hf hb

theorem left_eq : us ++ front.left = back.right.reverse ++ zs.reverse := by
  rw [hf.left, ← List.reverse_append, hb.right, List.reverse_reverse]

theorem right_eq : vs ++ front.right = back.left.reverse ++ ws.reverse := by
  rw [hf.right, ← List.reverse_append, hb.left, List.reverse_reverse]

theorem merged_perm {mx my : List α} (hmx : front.left = mx ++ zs.reverse)
    (hmy : front.right = my ++ ws.reverse) :
    (front.taken ++ mx ++ my ++ back.taken.reverse).Perm (xs ++ ys) := by
  have hfront : (front.taken : Multiset α) = us + vs := Multiset.coe_eq_coe.mpr hf.taken
  have hback : (back.taken : Multiset α) = ws + zs := Multiset.coe_eq_coe.mpr hb.taken
  rw [← hf.left, ← hf.right, hmx, hmy, ← Multiset.coe_eq_coe]
  simp only [← Multiset.coe_add, Multiset.coe_reverse, hfront, hback]
  abel

theorem ends_meet (hfs : front.Separates order us vs)
    (hbs : back.Separates (fun x y => order y x) ws zs) (hfl : front.taken.length = xs.length)
    (hbl : back.taken.length = xs.length) (hl : xs.length ≤ ys.length) :
    us.length ≤ back.right.length ∧ vs.length ≤ back.left.length := by
  have hxs := left_eq hf hb
  have hys := right_eq hf hb
  have hxl := congrArg List.length hb.right
  have hyl := congrArg List.length hb.left
  rw [hf.taken.length_eq, List.length_append] at hfl
  rw [hb.taken.length_eq, List.length_append] at hbl
  rw [List.length_append, List.length_reverse] at hxl hyl
  constructor
  · by_contra hn
    obtain ⟨x, hxu, hxz⟩ := exists_common hxs (by rw [List.length_reverse]; omega)
    obtain ⟨y, hyb, hyf⟩ := exists_common hys.symm (by rw [List.length_reverse]; omega)
    exact hfs.left x hxu y hyf (hbs.right y (List.mem_reverse.mp hyb) x (List.mem_reverse.mp hxz))
  · by_contra hn
    obtain ⟨y, hyv, hyw⟩ := exists_common hys (by rw [List.length_reverse]; omega)
    obtain ⟨x, hxb, hxf⟩ := exists_common hxs.symm (by rw [List.length_reverse]; omega)
    exact hbs.left y (List.mem_reverse.mp hyw) x (List.mem_reverse.mp hxb) (hfs.right x hxf y hyv)

end Meeting

section MergeEnds

variable {items as bs xs ys zs : List α}

/-- A list merged from both ends consists of these and of what neither has reached. -/
theorem mergeEnds?_eq_some_iff :
    mergeEnds? order xs ys = some zs ↔
      let front := takeFirst order xs.length xs ys
      let back := takeFirst (fun x y => order y x) xs.length ys.reverse xs.reverse
      (xs.length ≤ front.left.length + back.right.length ∧
        ys.length ≤ front.right.length + back.left.length) ∧
        front.taken ++ front.left.take (front.left.length + back.right.length - xs.length) ++
          front.right.take (front.right.length + back.left.length - ys.length) ++
            back.taken.reverse = zs := by
  simp only [mergeEnds?, Option.ite_none_right_eq_some, Option.some.injEq]

theorem transitiveOn_flip (h : TransitiveOn order (xs ++ ys)) :
    TransitiveOn (fun a b => order b a) (ys.reverse ++ xs.reverse) := by
  rw [← List.reverse_append]
  exact h.opposite.mono fun a ha => List.mem_reverse.mp ha

theorem pairwise_of_length_le_one {r : α → α → Prop} (h : xs.length ≤ 1) : xs.Pairwise r := by
  rcases xs with _ | ⟨x, _ | ⟨y, xs⟩⟩
  · exact .nil
  · exact List.pairwise_singleton r x
  · simp at h

variable [OrientedCmp order]

theorem takeLast_inFront {n : Nat} (ht : TransitiveOn order (xs ++ ys))
    (he : ∀ x ∈ xs, ∀ y ∈ ys, earlier x y) (hx : xs.Pairwise (Before order earlier))
    (hy : ys.Pairwise (Before order earlier)) :
    (takeFirst (fun x y => order y x) n ys.reverse xs.reverse).InFront
      fun a b => Before order earlier b a := by
  have hopposite : OrientedCmp fun x y => order y x := .opposite
  refine @takeFirst_inFront α (fun x y => order y x) (fun a b => earlier b a) n _ _ _
    (transitiveOn_flip ht) ?_ (List.pairwise_reverse.mpr hy) (List.pairwise_reverse.mpr hx)
  intro y hy x hx
  exact he x (List.mem_reverse.mp hx) y (List.mem_reverse.mp hy)

theorem pairwise_merged {front back : Ends α} {us vs ws ts mx my : List α}
    {before : α → α → Prop} (hf : front.InFront before)
    (hb : back.InFront fun a b => before b a) (htaken : back.taken.Perm (ws ++ ts))
    (hmxf : front.left = mx ++ ts.reverse) (hmyf : front.right = my ++ ws.reverse)
    (hmxb : back.right.reverse = us ++ mx) (hmyb : back.left.reverse = vs ++ my)
    (hmiddle : (mx ++ my).length ≤ 1) :
    (front.taken ++ (mx ++ my) ++ back.taken.reverse).Pairwise before := by
  -- The front stands before all that it leaves, and so the middle; all that the back leaves stands
  -- before the back.
  refine List.pairwise_append.mpr ⟨List.pairwise_append.mpr ⟨hf.pairwise,
    pairwise_of_length_le_one hmiddle, fun a ha b hb' => hf.rest a ha b ?_⟩,
    List.pairwise_reverse.mpr hb.pairwise, fun a ha b hb' => ?_⟩
  · rw [hmxf, hmyf]
    simp only [List.mem_append] at hb' ⊢
    tauto
  · rw [List.mem_reverse] at hb'
    rcases List.mem_append.mp ha with ha | ha
    · apply hf.rest a ha b
      rw [hmxf, hmyf]
      have := List.mem_append.mp (htaken.mem_iff.mp hb')
      simp only [List.mem_append, List.mem_reverse]
      tauto
    · apply hb.rest b hb' a
      rcases List.mem_append.mp ha with ha | ha
      · exact .inr (List.mem_reverse.mp (hmxb ▸ List.mem_append_right us ha))
      · exact .inl (List.mem_reverse.mp (hmyb ▸ List.mem_append_right vs ha))

theorem mergeEnds?_isSort (hx : IsSort order items as xs) (hy : IsSort order items bs ys)
    (hs : as ++ bs ⊆ items) (hxy : xs.length ≤ ys.length) (hyx : ys.length ≤ xs.length + 1)
    (h : mergeEnds? order xs ys = some zs) : IsSort order items (as ++ bs) zs := by
  have hopposite : OrientedCmp fun x y => order y x := .opposite
  obtain ⟨us, vs, hf, -⟩ := exists_takenFrom order xs.length xs ys
  obtain ⟨ws, ts, hb, -⟩ :=
    exists_takenFrom (fun x y => order y x) xs.length ys.reverse xs.reverse
  obtain ⟨⟨hleft, hright⟩, rfl⟩ := mergeEnds?_eq_some_iff.mp h
  have hxl := congrArg List.length hf.left
  have hyl := congrArg List.length hf.right
  rw [List.length_append] at hxl hyl
  obtain ⟨mx, hmxb, hmxf, hmx⟩ :=
    exists_middle (left_eq hf hb) (by rw [List.length_reverse]; omega)
  obtain ⟨my, hmyb, hmyf, hmy⟩ :=
    exists_middle (right_eq hf hb) (by rw [List.length_reverse]; omega)
  rw [hf.left, List.length_reverse] at hmx
  rw [hf.right, List.length_reverse] at hmy
  rw [hmx, hmy]
  have hperm := merged_perm hf hb hmxf hmyf
  have hmiddle : (mx ++ my).length ≤ 1 := by
    have hlength := hperm.length_eq
    simp only [List.length_append, List.length_reverse] at hlength
    rw [length_taken le_rfl hxy, length_taken (by simpa using hxy) (by simp)] at hlength
    rw [List.length_append]
    omega
  refine ⟨hperm.trans (hx.perm.append hy.perm), fun ht earlier he => ?_⟩
  obtain ⟨hea, heb, hcross⟩ := List.pairwise_append.mp he
  have htxy : TransitiveOn order (xs ++ ys) :=
    ht.mono fun a ha => hs ((hx.perm.append hy.perm).mem_iff.mp ha)
  have hexy : ∀ x ∈ xs, ∀ y ∈ ys, earlier x y := fun x hmemx y hmemy =>
    hcross x (hx.perm.mem_iff.mp hmemx) y (hy.perm.mem_iff.mp hmemy)
  rw [List.append_assoc _ mx my]
  exact pairwise_merged (takeFirst_inFront htxy hexy (hx.stable ht _ hea) (hy.stable ht _ heb))
    (takeLast_inFront htxy hexy (hx.stable ht _ hea) (hy.stable ht _ heb)) hb.taken hmxf hmyf
    hmxb hmyb hmiddle

theorem mergeEnds?_sorts (hx : IsSort order items as xs) (hy : IsSort order items bs ys)
    (hs : as ++ bs ⊆ items) (hxy : xs.length ≤ ys.length) (hyx : ys.length ≤ xs.length + 1) :
    Sorts order items (as ++ bs) (mergeEnds? order xs ys) where
  holds zs := mergeEnds?_isSort hx hy hs hxy hyx
  exists_some ht := by
    have hopposite : OrientedCmp fun x y => order y x := .opposite
    have htxy : TransitiveOn order (xs ++ ys) :=
      ht.mono fun a ha => hs ((hx.perm.append hy.perm).mem_iff.mp ha)
    obtain ⟨us, vs, hf, hfs⟩ := exists_takenFrom order xs.length xs ys
    obtain ⟨ws, ts, hb, hbs⟩ :=
      exists_takenFrom (fun x y => order y x) xs.length ys.reverse xs.reverse
    have hmeet := ends_meet hf hb (hfs htxy (hx.isLE ht) (hy.isLE ht))
      (hbs (transitiveOn_flip htxy) (List.pairwise_reverse.mpr (hy.isLE ht))
        (List.pairwise_reverse.mpr (hx.isLE ht)))
      (length_taken le_rfl hxy) (length_taken (by simpa using hxy) (by simp)) hxy
    refine ⟨_, mergeEnds?_eq_some_iff.mpr ⟨⟨?_, ?_⟩, rfl⟩⟩
    · have hxl := congrArg List.length hf.left
      rw [List.length_append] at hxl
      omega
    · have hyl := congrArg List.length hf.right
      rw [List.length_append] at hyl
      omega

end MergeEnds

end TableQuery.Sorting
