import TableQuery.Proofs.Sorting.ShortLists
import TableQuery.Sorting.Long

namespace TableQuery.Sorting

open Std (OrientedCmp)

variable {α β : Type} {order : α → α → Ordering} {earlier : α → α → Prop}

section Merge

variable {n : Nat} {items as bs xs ys : List α}

/-- Where it stops, merging the fronts of two lists has used up one of them. -/
theorem merge_eq_takeFirst (order : α → α → Ordering) (h : xs.length + ys.length ≤ n) :
    xs.merge ys (fun x y => order y x ≠ .lt) =
        (takeFirst order n xs ys).taken ++
          ((takeFirst order n xs ys).left ++ (takeFirst order n xs ys).right) ∧
      ((takeFirst order n xs ys).left = [] ∨ (takeFirst order n xs ys).right = []) := by
  fun_induction takeFirst order n xs ys with
  | case1 n x xs y ys hlt e ih =>
      rw [List.length_cons, List.length_cons] at h
      obtain ⟨hm, hend⟩ := ih (by rw [List.length_cons]; omega)
      rw [List.cons_merge_cons_neg _ _ _ (by simpa using hlt), hm]
      exact ⟨rfl, hend⟩
  | case2 n x xs y ys hlt e ih =>
      rw [List.length_cons, List.length_cons] at h
      obtain ⟨hm, hend⟩ := ih (by rw [List.length_cons]; omega)
      rw [List.cons_merge_cons_pos _ _ _ (by simpa using hlt), hm]
      exact ⟨rfl, hend⟩
  | case3 n xs ys hn =>
      cases xs with
      | nil => simp
      | cons x xs =>
          cases ys with
          | nil => simp
          | cons y ys =>
              obtain ⟨m, rfl⟩ : ∃ m, n = m + 1 := ⟨n - 1, by simp at h; omega⟩
              exact absurd rfl (hn m x xs y ys rfl rfl)

variable [OrientedCmp order]

theorem pairwise_merge (ht : TransitiveOn order (xs ++ ys))
    (he : ∀ x ∈ xs, ∀ y ∈ ys, earlier x y) (hx : xs.Pairwise (Before order earlier))
    (hy : ys.Pairwise (Before order earlier)) :
    (xs.merge ys fun x y => order y x ≠ .lt).Pairwise (Before order earlier) := by
  obtain ⟨hmerge, hend⟩ := merge_eq_takeFirst order (le_refl (xs.length + ys.length))
  obtain ⟨us, vs, hf, -⟩ := exists_takenFrom order (xs.length + ys.length) xs ys
  have hfront := takeFirst_inFront ht he hx hy (n := xs.length + ys.length)
  rw [← hf.left] at hx
  rw [← hf.right] at hy
  rw [hmerge]
  refine List.pairwise_append.mpr ⟨hfront.pairwise, ?_, fun a ha b hb =>
    hfront.rest a ha b (List.mem_append.mp hb)⟩
  rcases hend with hnil | hnil
  · rw [hnil]
    exact (List.pairwise_append.mp hy).2.1
  · rw [hnil, List.append_nil]
    exact (List.pairwise_append.mp hx).2.1

theorem mergeRuns_isSort (hx : IsSort order items as xs) (hy : IsSort order items bs ys)
    (hs : as ++ bs ⊆ items) : IsSort order items (as ++ bs) (mergeRuns order xs ys) := by
  have hperm := hx.perm.append hy.perm
  have hmerged : (mergeRuns order xs ys).Perm (xs ++ ys) := by
    unfold mergeRuns
    split
    · exact List.merge_perm_append _
    · refine (List.reverse_perm _).trans ((List.merge_perm_append _).trans ?_)
      exact List.perm_append_comm.trans ((List.reverse_perm xs).append (List.reverse_perm ys))
  refine ⟨hmerged.trans hperm, fun ht earlier he => ?_⟩
  obtain ⟨hea, heb, hcross⟩ := List.pairwise_append.mp he
  have htxy : TransitiveOn order (xs ++ ys) := ht.mono fun a ha => hs (hperm.mem_iff.mp ha)
  have hexy : ∀ x ∈ xs, ∀ y ∈ ys, earlier x y := fun x hmemx y hmemy =>
    hcross x (hx.perm.mem_iff.mp hmemx) y (hy.perm.mem_iff.mp hmemy)
  have hxb := hx.stable ht earlier hea
  have hyb := hy.stable ht earlier heb
  unfold mergeRuns
  split
  · exact pairwise_merge htxy hexy hxb hyb
  · have hopposite : OrientedCmp fun x y => order y x := .opposite
    rw [List.pairwise_reverse]
    refine @pairwise_merge α (fun x y => order y x) (fun a b => earlier b a) _ _ _
      (transitiveOn_flip htxy) (fun y hy x hx => ?_) (List.pairwise_reverse.mpr hyb)
      (List.pairwise_reverse.mpr hxb)
    exact hexy x (List.mem_reverse.mp hx) y (List.mem_reverse.mp hy)

end Merge

section Natural

variable {items xs : List α} (descending : Bool)

theorem isChain_following (x : α) (xs : List α) :
    (x :: xs.take (following order descending x xs)).IsChain
      fun a b => decide (order b a = .lt) = descending := by
  induction xs generalizing x with
  | nil => exact .singleton x
  | cons y ys ih =>
      rw [following]
      split
      · rename_i h
        exact .cons_cons h (ih y)
      · exact .singleton x

theorem isChain_natural (order : α → α → Ordering) (xs : List α) :
    (xs.take (naturalLength order xs)).IsChain
      fun a b => decide (order b a = .lt) = descends order xs := by
  cases xs with
  | nil => exact .nil
  | cons x rest => exact isChain_following _ x rest

theorem pairwise_of_isChain {r : α → α → Prop}
    (ht : ∀ a ∈ xs, ∀ b ∈ xs, ∀ c ∈ xs, r a b → r b c → r a c) (h : xs.IsChain r) :
    xs.Pairwise r := by
  induction xs with
  | nil => exact .nil
  | cons x xs ih =>
      have hrest := ih (fun a ha b hb c hc => ht a (by simp [ha]) b (by simp [hb]) c (by simp [hc]))
        h.tail
      refine List.pairwise_cons.mpr ⟨fun z hz => ?_, hrest⟩
      cases xs with
      | nil => cases hz
      | cons y ys =>
          have hxy : r x y := (List.isChain_cons_cons.mp h).1
          rcases List.mem_cons.mp hz with rfl | hzy
          · exact hxy
          · exact ht x (by simp) y (by simp) z (by simp [hzy]) hxy
              ((List.pairwise_cons.mp hrest).1 z hzy)

theorem natural_isSort [OrientedCmp order] (hs : xs ⊆ items) :
    IsSort order items (xs.take (naturalLength order xs))
      (if descends order xs then (xs.take (naturalLength order xs)).reverse
        else xs.take (naturalLength order xs)) := by
  have hchain := isChain_natural order xs
  have hrun : xs.take (naturalLength order xs) ⊆ items := fun a ha => hs (List.mem_of_mem_take ha)
  generalize xs.take (naturalLength order xs) = run at hchain hrun
  cases hd : descends order xs with
  | true =>
      refine ⟨by simp, fun ht earlier he => ?_⟩
      simp only [hd, decide_eq_true_eq] at hchain
      rw [if_pos rfl, List.pairwise_reverse]
      refine (pairwise_of_isChain (fun a ha b hb c hc hab hbc => ?_) hchain).imp .inl
      exact ht.lt_of_lt_of_isLE (hrun hc) (hrun hb) (hrun ha) hbc (by simp [hab])
  | false =>
      refine ⟨by simp, fun ht earlier he => ?_⟩
      simp only [hd, decide_eq_false_iff_not] at hchain
      have hle := pairwise_of_isChain (fun a ha b hb c hc hab hbc => ?_)
        (hchain.imp fun _ _ h => isLE_of_not_lt h)
      · rw [if_neg (by simp)]
        exact hle.imp₂ (fun _ _ => Before.of_isLE) he
      · exact ht a (hrun ha) b (hrun hb) c (hrun hc) hab hbc

end Natural

section Made

variable {items : List α}

/-- A run holds the items `xs`: in order if it is marked so, and else as they stand. -/
def Run.Holds (order : α → α → Ordering) (items xs : List α) (run : Run α) : Prop :=
  if run.sorted then IsSort order items xs run.items else run.items = xs

/-- Runs hold the items `xs` one after the other. -/
inductive HoldAll (order : α → α → Ordering) (items : List α) : List α → List (Run α) → Prop
  | nil : HoldAll order items [] []
  | cons {xs ys : List α} {run : Run α} {rest : List (Run α)} (head : run.Holds order items xs)
      (tail : HoldAll order items ys rest) : HoldAll order items (xs ++ ys) (run :: rest)

/-- The runs before another one, the nearest first, hold the items `xs`. -/
inductive HoldBefore (order : α → α → Ordering) (items : List α) :
    List α → List (Run α × Nat) → Prop
  | nil : HoldBefore order items [] []
  | cons {xs ys : List α} {run : Run α} {depth : Nat} {before : List (Run α × Nat)}
      (head : run.Holds order items ys) (tail : HoldBefore order items xs before) :
      HoldBefore order items (xs ++ ys) ((run, depth) :: before)

variable [OrientedCmp order] {xs : List α}

theorem makeRun?_holds (size good : Nat) (eager : Bool) (hs : xs ⊆ items) :
    Gives order items (Run.Holds order items (xs.take (runLength order good eager xs)))
      (makeRun? order size good eager xs) := by
  unfold makeRun? runLength
  split
  · exact .of_holds (by simpa [Run.Holds] using natural_isSort hs)
  · split
    · exact (sortShort?_sorts size fun a ha => hs (List.mem_of_mem_take ha)).map
        fun ys hys => by simpa [Run.Holds] using hys
    · exact .of_holds (by simp [Run.Holds])

theorem runLength_pos (order : α → α → Ordering) (good : Nat) (eager : Bool) (x : α)
    (rest : List α) : 0 < runLength order good eager (x :: rest) := by
  have hnatural : 0 < naturalLength order (x :: rest) := Nat.succ_pos _
  unfold runLength shortLength
  split
  · exact hnatural
  · split <;> omega

theorem runs?_hold (size good : Nat) (eager : Bool) (xs : List α) (hs : xs ⊆ items) :
    Gives order items (HoldAll order items xs) (runs? order size good eager xs) := by
  fun_induction runs? order size good eager xs with
  | case1 => exact .of_holds .nil
  | case2 x rest ih =>
      refine (makeRun?_holds size good eager hs).bind fun run hrun => ?_
      have hpos := runLength_pos order good eager x rest
      have hdrop : rest.drop (runLength order good eager (x :: rest) - 1) =
          (x :: rest).drop (runLength order good eager (x :: rest)) := by
        obtain ⟨n, hn⟩ := Nat.exists_eq_succ_of_ne_zero hpos.ne'
        rw [hn, List.drop_succ_cons, Nat.succ_sub_one]
      rw [hdrop] at ih ⊢
      refine (ih fun a ha => hs (List.mem_of_mem_drop ha)).bind fun others hothers => ?_
      have hall := HoldAll.cons hrun hothers
      rw [List.take_append_drop] at hall
      exact .of_holds hall

end Made

section Joined

variable {items xs ys zs : List α} {room : Nat} {sortRun? : List α → Option (List α)}
  {left right run : Run α} {before : List (Run α × Nat)} {rest : List (Run α)}

theorem Run.Holds.items_eq (h : run.Holds order items xs) (hs : run.sorted = false) :
    run.items = xs := by
  rwa [Run.Holds, hs, if_neg Bool.false_ne_true] at h

theorem Run.Holds.of_isSort (h : IsSort order items xs ys) :
    Run.Holds order items xs ⟨ys, true⟩ := by
  rwa [Run.Holds, if_pos rfl]

variable (hsort : ∀ xs, xs ⊆ items → Sorts order items xs (sortRun? xs))

include hsort

theorem inOrder?_sorts (h : run.Holds order items xs) (hs : xs ⊆ items) :
    Sorts order items xs (inOrder? sortRun? run) := by
  unfold inOrder?
  unfold Run.Holds at h
  split
  · rename_i hsorted
    rw [if_pos hsorted] at h
    exact .of_holds h
  · rename_i hsorted
    rw [if_neg hsorted] at h
    rw [h]
    exact hsort xs hs

variable [OrientedCmp order]

theorem joinRuns?_holds (hl : left.Holds order items xs) (hr : right.Holds order items ys)
    (hs : xs ++ ys ⊆ items) :
    Gives order items (Run.Holds order items (xs ++ ys))
      (joinRuns? order room sortRun? left right) := by
  unfold joinRuns?
  split
  · rename_i h
    obtain ⟨-, hls, hrs⟩ := h
    rw [hl.items_eq (by simpa using hls), hr.items_eq (by simpa using hrs)]
    exact .of_holds (by simp [Run.Holds])
  · refine (inOrder?_sorts hsort hl fun a ha => hs (List.mem_append_left ys ha)).bind
      fun ls hls => ?_
    refine (inOrder?_sorts hsort hr fun a ha => hs (List.mem_append_right xs ha)).bind
      fun rs hrs => ?_
    exact .of_holds (.of_isSort (mergeRuns_isSort hls hrs hs))

/-- The runs that are not joined, and the one that the others are joined to, hold what all held. -/
theorem collapse?_holds (depth : Nat) (hr : run.Holds order items ys)
    (hb : HoldBefore order items xs before) (hs : xs ++ ys ⊆ items) :
    Gives order items
      (fun joined => ∃ us vs, us ++ vs = xs ++ ys ∧ joined.1.Holds order items vs ∧
        HoldBefore order items us joined.2 ∧ (depth = 0 → joined.2 = []))
      (collapse? order room sortRun? depth run before) := by
  induction hb generalizing run ys with
  | nil => exact .of_holds ⟨[], ys, rfl, hr, .nil, fun _ => rfl⟩
  | @cons xs zs left leftDepth before hl hb ih =>
      rw [List.append_assoc] at hs ⊢
      rw [collapse?]
      split
      · exact (joinRuns?_holds hsort hl hr fun a ha => hs (List.mem_append_right xs ha)).bind
          fun joined hj => ih hj hs
      · rename_i hdepth
        refine .of_holds ⟨xs ++ zs, ys, by rw [List.append_assoc], hr, .cons hl hb, fun h => ?_⟩
        exact absurd (h ▸ Nat.zero_le _) hdepth

theorem joinAll?_holds (n scanned : Nat) (hr : run.Holds order items ys)
    (hb : HoldBefore order items xs before) (ha : HoldAll order items zs rest)
    (hs : xs ++ ys ++ zs ⊆ items) :
    Gives order items (Run.Holds order items (xs ++ ys ++ zs))
      (joinAll? order room sortRun? n scanned run before rest) := by
  induction ha generalizing run before xs ys scanned with
  | nil =>
      rw [List.append_nil] at hs ⊢
      refine (collapse?_holds hsort 0 hr hb hs).map fun joined hj => ?_
      obtain ⟨us, vs, huv, hj, hbefore, hnil⟩ := hj
      rw [hnil rfl] at hbefore
      cases hbefore
      rwa [← huv]
  | @cons ws zs next rest hn hrest ih =>
      rw [joinAll?]
      refine (collapse?_holds hsort _ hr hb fun a ha => hs (List.mem_append_left _ ha)).bind
        fun joined hj => ?_
      obtain ⟨us, vs, huv, hj, hbefore, -⟩ := hj
      rw [← huv, ← List.append_assoc] at hs ⊢
      exact ih _ hn (.cons hj hbefore) hs

theorem byRuns?_sorts (size : Nat) (eager : Bool) (hs : xs ⊆ items) :
    Sorts order items xs (byRuns? order room sortRun? size eager xs) := by
  refine (runs?_hold size (goodLength xs.length) eager xs hs).bind fun runs hruns => ?_
  cases hruns with
  | nil => exact .of_holds ⟨.nil, fun _ _ _ => .nil⟩
  | cons hr hrest =>
      exact (joinAll?_holds hsort _ _ hr .nil hrest hs).bind
        fun joined hj => inOrder?_sorts hsort hj hs

end Joined

section Map

variable {order' : β → β → Ordering} {f : α → β} (h : ∀ a b, order a b = order' (f a) (f b))

def Run.map (f : α → β) (run : Run α) : Run β := ⟨run.items.map f, run.sorted⟩

@[simp]
theorem Run.length_map (f : α → β) (run : Run α) : (run.map f).items.length = run.items.length :=
  List.length_map f

include h

theorem map_following (descending : Bool) (x : α) (xs : List α) :
    following order descending x xs = following order' descending (f x) (xs.map f) := by
  induction xs generalizing x with
  | nil => rfl
  | cons y ys ih => rw [List.map_cons, following, following, ih, h]

theorem map_descends (xs : List α) : descends order xs = descends order' (xs.map f) := by
  rcases xs with _ | ⟨x, _ | ⟨y, xs⟩⟩
  · rfl
  · rfl
  · simp only [descends, List.map_cons, h]

theorem map_naturalLength (xs : List α) :
    naturalLength order xs = naturalLength order' (xs.map f) := by
  cases xs with
  | nil => rfl
  | cons x rest =>
      rw [naturalLength, map_following h, map_descends h, List.map_cons, naturalLength]

theorem map_runLength (good : Nat) (eager : Bool) (xs : List α) :
    runLength order good eager xs = runLength order' good eager (xs.map f) := by
  rw [runLength, map_naturalLength h, runLength]

theorem map_makeRun? (size good : Nat) (eager : Bool) (xs : List α) :
    (makeRun? order size good eager xs).map (Run.map f) =
      makeRun? order' size good eager (xs.map f) := by
  unfold makeRun?
  rw [← map_naturalLength h, ← map_descends h, ← List.map_take, ← List.map_take, ← List.map_take,
    ← map_sortShort? h]
  split
  · split <;> simp [Run.map]
  · split
    · rw [Option.map_map, Option.map_map]
      rfl
    · rfl

theorem map_runs? (size good : Nat) (eager : Bool) (xs : List α) :
    (runs? order size good eager xs).map (List.map (Run.map f)) =
      runs? order' size good eager (xs.map f) := by
  fun_induction runs? order size good eager xs with
  | case1 => rw [List.map_nil, runs?]; rfl
  | case2 x rest ih =>
      rw [List.map_cons, runs?, ← List.map_cons, ← map_makeRun? h, ← map_runLength h,
        ← List.map_drop, ← ih]
      cases makeRun? order size good eager (x :: rest) with
      | none => rfl
      | some run =>
          cases runs? order size good eager
            (rest.drop (runLength order good eager (x :: rest) - 1)) with
          | none => rfl
          | some others => rfl

theorem map_mergeRuns (xs ys : List α) :
    (mergeRuns order xs ys).map f = mergeRuns order' (xs.map f) (ys.map f) := by
  simp only [mergeRuns, List.length_map]
  split
  · exact List.map_merge fun a _ b _ => by rw [h]
  · rw [← List.map_reverse, ← List.map_reverse]
    exact List.map_reverse.trans (congrArg List.reverse
      (List.map_merge (s := fun y x => order' y x ≠ .lt) fun a _ b _ => by rw [h]))

section Joins

variable (room : Nat) {sortRun? : List α → Option (List α)} {sortRun?' : List β → Option (List β)}
  (hsort : ∀ ys, (sortRun? ys).map (List.map f) = sortRun?' (ys.map f))

include hsort

omit h in
theorem map_inOrder? (run : Run α) :
    (inOrder? sortRun? run).map (List.map f) = inOrder? sortRun?' (run.map f) := by
  unfold inOrder? Run.map
  split
  · rfl
  · exact hsort run.items

theorem map_joinRuns? (left right : Run α) :
    (joinRuns? order room sortRun? left right).map (Run.map f) =
      joinRuns? order' room sortRun?' (left.map f) (right.map f) := by
  rw [joinRuns?, joinRuns?, ← map_inOrder? hsort, ← map_inOrder? hsort]
  simp only [Run.map, List.length_map]
  split
  · simp [Run.map]
  · cases inOrder? sortRun? left with
    | none => rfl
    | some xs =>
        cases inOrder? sortRun? right with
        | none => rfl
        | some ys => simp [Run.map, map_mergeRuns h]

theorem map_collapse? (depth : Nat) (run : Run α) (before : List (Run α × Nat)) :
    (collapse? order room sortRun? depth run before).map
        (Prod.map (Run.map f) (List.map (Prod.map (Run.map f) id))) =
      collapse? order' room sortRun?' depth (run.map f)
        (before.map (Prod.map (Run.map f) id)) := by
  induction before generalizing run with
  | nil => rfl
  | cons last before ih =>
      obtain ⟨left, leftDepth⟩ := last
      rw [List.map_cons, Prod.map_apply, collapse?, collapse?, ← map_joinRuns? h room hsort, id]
      split
      · cases joinRuns? order room sortRun? left run with
        | none => rfl
        | some joined => exact ih joined
      · rfl

theorem map_joinAll? (n scanned : Nat) (run : Run α) (before : List (Run α × Nat))
    (rest : List (Run α)) :
    (joinAll? order room sortRun? n scanned run before rest).map (Run.map f) =
      joinAll? order' room sortRun?' n scanned (run.map f)
        (before.map (Prod.map (Run.map f) id)) (rest.map (Run.map f)) := by
  induction rest generalizing scanned run before with
  | nil =>
      rw [List.map_nil, joinAll?, joinAll?, ← map_collapse? h room hsort, Option.map_map, Option.map_map]
      rfl
  | cons next rest ih =>
      rw [List.map_cons, joinAll?, joinAll?]
      rw [Run.length_map, Run.length_map, ← map_collapse? h room hsort]
      generalize mergeDepth n _ _ _ = depth
      cases collapse? order room sortRun? depth run before with
      | none => rfl
      | some joined =>
          exact ih (scanned + next.items.length) next ((joined.1, depth) :: joined.2)

theorem map_byRuns? (size : Nat) (eager : Bool) (xs : List α) :
    (byRuns? order room sortRun? size eager xs).map (List.map f) =
      byRuns? order' room sortRun?' size eager (xs.map f) := by
  rw [byRuns?, byRuns?, ← map_runs? h, List.length_map]
  cases runs? order size (goodLength xs.length) eager xs with
  | none => rfl
  | some runs =>
      cases runs with
      | nil => rfl
      | cons run rest =>
          have hjoined := map_joinAll? h room hsort xs.length run.items.length run [] rest
          rw [List.map_nil] at hjoined
          simp only [Option.map_some, Option.bind_eq_bind, Option.bind_some, List.map_cons,
            Run.length_map, ← hjoined]
          cases joinAll? order room sortRun? xs.length run.items.length run [] rest with
          | none => rfl
          | some joined => exact map_inOrder? hsort joined

end Joins

end Map

end TableQuery.Sorting
