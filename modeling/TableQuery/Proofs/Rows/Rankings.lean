import TableQuery.Proofs.Rows.RowOrder
import TableQuery.Proofs.Rows.WindowCells

namespace TableQuery

open Std (OrientedCmp ReflCmp)

namespace Sorting

variable {α : Type}

section Below

variable {order : α → α → Ordering}

/-- The number of items that are less than one. -/
def countBelow (order : α → α → Ordering) (items : List α) (x : α) : Nat :=
  items.countP fun a => order a x = .lt

def tieClass (order : α → α → Ordering) (items : List α) (x : α) : Set α :=
  {a | a ∈ items ∧ order x a = .eq}

def classesBelow (order : α → α → Ordering) (items : List α) (x : α) : Set (Set α) :=
  tieClass order items '' {a | a ∈ items ∧ order a x = .lt}

theorem countBelow_perm {items items' : List α} (h : items.Perm items') (x : α) :
    countBelow order items x = countBelow order items' x :=
  h.countP_eq _

theorem classesBelow_perm {items items' : List α} (h : items.Perm items') (x : α) :
    classesBelow order items x = classesBelow order items' x := by
  unfold classesBelow tieClass
  simp only [h.mem_iff]

theorem finite_classesBelow (order : α → α → Ordering) (items : List α) (x : α) :
    (classesBelow order items x).Finite :=
  ((List.finite_toSet items).subset fun _ ha => ha.1).image _

end Below

section Transitive

variable {order : α → α → Ordering} [OrientedCmp order] {items : List α} {a b : α}
  (ht : TransitiveOn order items) (ha : a ∈ items) (hb : b ∈ items)

include ht ha hb

theorem lt_iff_of_tied (hab : order a b = .eq) {c : α} (hc : c ∈ items) :
    order c a = .lt ↔ order c b = .lt :=
  ⟨fun h => ht.lt_of_lt_of_isLE hc ha hb h (by simp [hab]),
    fun h => ht.lt_of_lt_of_isLE hc hb ha h (by simp [OrientedCmp.eq_symm hab])⟩

theorem countBelow_of_tied (hab : order a b = .eq) :
    countBelow order items a = countBelow order items b :=
  List.countP_congr fun c hc => by simpa using lt_iff_of_tied ht ha hb hab hc

theorem tieClass_of_tied (hab : order a b = .eq) :
    tieClass order items a = tieClass order items b := by
  ext c
  refine and_congr_right fun hc => ⟨?_, ?_⟩
  · exact ht.eq_of_eq_of_eq hb ha hc (OrientedCmp.eq_symm hab)
  · exact ht.eq_of_eq_of_eq ha hb hc hab

theorem classesBelow_of_tied (hab : order a b = .eq) :
    classesBelow order items a = classesBelow order items b := by
  have hbelow : {c | c ∈ items ∧ order c a = .lt} = {c | c ∈ items ∧ order c b = .lt} :=
    Set.ext fun c => and_congr_right (lt_iff_of_tied ht ha hb hab)
  rw [classesBelow, hbelow, classesBelow]

/-- Below the next item that is not level there is one more tie class. -/
theorem ncard_classesBelow (hab : order a b = .lt)
    (hn : ∀ c ∈ items, (order c a).isLE ∨ (order b c).isLE) :
    (classesBelow order items b).ncard = (classesBelow order items a).ncard + 1 := by
  have hnew : tieClass order items a ∉ classesBelow order items a := by
    rintro ⟨c, ⟨-, hca⟩, hclass⟩
    obtain ⟨-, hac⟩ : a ∈ tieClass order items c := hclass ▸ ⟨ha, ReflCmp.compare_self⟩
    simp [hca] at hac
  have hinsert : classesBelow order items b =
      insert (tieClass order items a) (classesBelow order items a) := by
    ext t
    constructor
    · rintro ⟨c, ⟨hc, hcb⟩, rfl⟩
      have hle : (order c a).isLE :=
        (hn c hc).resolve_right fun hbc => OrientedCmp.not_lt_of_isLE hbc hcb
      rcases Ordering.isLE_iff_eq_lt_or_eq_eq.mp hle with hlt | heq
      · exact .inr ⟨c, ⟨hc, hlt⟩, rfl⟩
      · exact .inl (tieClass_of_tied ht hc ha heq)
    · rintro (rfl | ⟨c, ⟨hc, hca⟩, rfl⟩)
      · exact ⟨a, ⟨ha, hab⟩, rfl⟩
      · exact ⟨c, ⟨hc, ht.lt_of_lt_of_isLE hc ha hb hca (by simp [hab])⟩, rfl⟩
  rw [hinsert, Set.ncard_insert_of_notMem hnew (finite_classesBelow order items a)]

end Transitive

section Sorted

variable {order : α → α → Ordering} [OrientedCmp order] {sorted : List α}
  (hs : sorted.Pairwise fun a b => (order a b).isLE)

include hs

theorem countBelow_head {a : α} {rest : List α} (hn : sorted = a :: rest) :
    countBelow order sorted a = 0 := by
  subst hn
  refine List.countP_eq_zero.mpr fun c hc => ?_
  simpa using OrientedCmp.not_lt_of_isLE (isLE_head hs c hc)

theorem classesBelow_head {a : α} {rest : List α} (hn : sorted = a :: rest) :
    classesBelow order sorted a = ∅ := by
  subst hn
  rw [classesBelow, Set.image_eq_empty, Set.eq_empty_iff_forall_notMem]
  exact fun c hc => OrientedCmp.not_lt_of_isLE (isLE_head hs c hc.1) hc.2

section Neighbours

variable {before after : List α} {a b : α} (hn : sorted = before ++ a :: b :: after)

include hn

theorem isLE_of_before {c : α} (hc : c ∈ before ++ [a]) : (order c a).isLE := by
  subst hn
  rcases List.mem_append.mp hc with hc | hc
  · exact (List.pairwise_append.mp hs).2.2 c hc a List.mem_cons_self
  · obtain rfl := List.mem_singleton.mp hc
    simp [ReflCmp.compare_self]

theorem isLE_of_after {c : α} (hc : c ∈ b :: after) : (order b c).isLE := by
  subst hn
  obtain ⟨-, hafter⟩ := List.pairwise_cons.mp (List.pairwise_append.mp hs).2.1
  exact isLE_head hafter c hc

omit [OrientedCmp order] in
theorem lt_or_eq_next : order a b = .lt ∨ order a b = .eq := by
  subst hn
  obtain ⟨ha, -⟩ := List.pairwise_cons.mp (List.pairwise_append.mp hs).2.1
  exact Ordering.isLE_iff_eq_lt_or_eq_eq.mp (ha b List.mem_cons_self)

variable (ht : TransitiveOn order sorted)

include ht

theorem countBelow_next (hab : order a b = .lt) :
    countBelow order sorted b = before.length + 1 := by
  have hsplit : sorted = (before ++ [a]) ++ b :: after := by rw [hn, List.append_cons]
  have hbefore : (before ++ [a]).countP (fun c => order c b = .lt) = (before ++ [a]).length := by
    rw [List.countP_eq_length]
    intro c hc
    rw [decide_eq_true_eq]
    exact ht.lt_of_isLE_of_lt (by rw [hsplit]; exact List.mem_append_left _ hc) (by simp [hn])
      (by simp [hn]) (isLE_of_before hs hn hc) hab
  have hafter : (b :: after).countP (fun c => order c b = .lt) = 0 := by
    rw [List.countP_eq_zero]
    intro c hc
    simpa using OrientedCmp.not_lt_of_isLE (isLE_of_after hs hn hc)
  rw [countBelow, hsplit, List.countP_append, hbefore, hafter, List.length_append]
  rfl

theorem ncard_classesBelow_next (hab : order a b = .lt) :
    (classesBelow order sorted b).ncard = (classesBelow order sorted a).ncard + 1 := by
  refine ncard_classesBelow ht (by simp [hn]) (by simp [hn]) hab fun c hc => ?_
  have hsplit : sorted = (before ++ [a]) ++ b :: after := by rw [hn, List.append_cons]
  rw [hsplit] at hc
  exact (List.mem_append.mp hc).imp (isLE_of_before hs hn) (isLE_of_after hs hn)

end Neighbours
end Sorted
end Sorting

namespace WindowField

section Ranks

variable {orderBy : List OrderTerm} {dense : Bool} {sorted : List Row} {rank : Row → Nat}

/-- Each row's rank follows from the one before it. -/
def RankedBy (orderBy : List OrderTerm) (dense : Bool) (sorted : List Row) (rank : Row → Nat) :
    Prop :=
  ∀ before a b after, sorted = before ++ a :: b :: after →
    rank b = if Row.compareOn a b orderBy = .eq then rank a
      else if dense then rank a + 1 else before.length + 2

theorem ranksFrom_eq_map (h : RankedBy orderBy dense sorted rank) {before rest : List Row} {a : Row}
    (hs : sorted = before ++ a :: rest) :
    ranksFrom orderBy dense (before.length + 1) (rank a) a rest = rest.map rank := by
  induction rest generalizing before a with
  | nil => rfl
  | cons b rest ih =>
      have hb := h before a b rest hs
      -- The rows before grow by the one just ranked, so that their number stays the place.
      have hnext : sorted = (before ++ [a]) ++ b :: rest := by rw [hs, List.append_cons]
      have hrest := ih hnext
      rw [List.length_append, List.length_singleton] at hrest
      rw [ranksFrom, ← hb, hrest, List.map_cons]

theorem ranks_eq_map (h : RankedBy orderBy dense sorted rank)
    (hfirst : ∀ r rest, sorted = r :: rest → rank r = 1) :
    ranks orderBy dense sorted = sorted.map rank := by
  cases hs : sorted with
  | nil => rfl
  | cons r rest =>
      have hr := hfirst r rest hs
      have hrest := ranksFrom_eq_map h (hs.trans (List.nil_append _).symm)
      rw [List.length_nil, hr] at hrest
      rw [ranks, hrest, List.map_cons, hr]

theorem ranks_eq_countBelow (ht : TransitiveOn (fun a b => Row.compareOn a b orderBy) sorted)
    (hs : sorted.Pairwise fun a b => (Row.compareOn a b orderBy).isLE) :
    ranks orderBy false sorted =
      sorted.map fun r => 1 + Sorting.countBelow (fun a b => Row.compareOn a b orderBy) sorted r := by
  apply ranks_eq_map
  · intro before a b after hn
    rcases Sorting.lt_or_eq_next hs hn with hab | hab
    · have hb := Sorting.countBelow_next hs hn ht hab
      simp only [hab, hb, reduceCtorEq, Bool.false_eq_true, if_false]
      omega
    · have hb := Sorting.countBelow_of_tied ht (by simp [hn]) (by simp [hn]) hab
      simp [hab, hb]
  · intro r rest hn
    rw [Sorting.countBelow_head hs hn]

theorem ranks_eq_classesBelow (ht : TransitiveOn (fun a b => Row.compareOn a b orderBy) sorted)
    (hs : sorted.Pairwise fun a b => (Row.compareOn a b orderBy).isLE) :
    ranks orderBy true sorted = sorted.map fun r =>
      1 + (Sorting.classesBelow (fun a b => Row.compareOn a b orderBy) sorted r).ncard := by
  apply ranks_eq_map
  · intro before a b after hn
    rcases Sorting.lt_or_eq_next hs hn with hab | hab
    · have hb := Sorting.ncard_classesBelow_next hs hn ht hab
      simp [hab, hb, Nat.add_assoc]
    · have hb := Sorting.classesBelow_of_tied ht (by simp [hn]) (by simp [hn]) hab
      simp [hab, hb]
  · intro r rest hn
    rw [Sorting.classesBelow_head hs hn, Set.ncard_empty]

end Ranks

section Partition

variable {w : WindowField} {rows : List Row} {key : String} {sorted : List Placed} {i : Nat} {r : Row}

def position (sorted : List Placed) (i : Nat) : Nat := (sorted.map Prod.snd).idxOf i

theorem transitiveOn_membersOf
    (ht : TransitiveOn (fun a b => Row.compareOn a b w.orderBy)
      (rows.filter fun r => w.partitionKey r = key)) :
    TransitiveOn (fun a b => Row.compareOn a.1 b.1 w.orderBy) (w.membersOf rows key) := by
  rw [← map_fst_membersOf] at ht
  exact TransitiveOn.map_iff.mpr ht

theorem exists_partitionOf?
    (ht : TransitiveOn (fun a b => Row.compareOn a b w.orderBy)
      (rows.filter fun r => w.partitionKey r = key)) :
    ∃ sorted, w.partitionOf? rows key = some sorted :=
  (Sorting.sort?_sorts _ placeSize _).exists_some (transitiveOn_membersOf ht)

variable (h : w.partitionOf? rows key = some sorted)

include h

theorem pairwise_partitionOf?
    (ht : TransitiveOn (fun a b => Row.compareOn a b w.orderBy)
      (rows.filter fun r => w.partitionKey r = key)) :
    sorted.Pairwise
      (Sorting.Before (fun a b => Row.compareOn a.1 b.1 w.orderBy) fun a b => a.2 < b.2) :=
  ((Sorting.sort?_sorts _ placeSize _).holds sorted h).stable (transitiveOn_membersOf ht) _
    (w.pairwise_membersOf rows key)

theorem pairwise_isLE_partitionOf?
    (ht : TransitiveOn (fun a b => Row.compareOn a b w.orderBy)
      (rows.filter fun r => w.partitionKey r = key)) :
    (sorted.map Prod.fst).Pairwise fun a b => (Row.compareOn a b w.orderBy).isLE :=
  List.pairwise_map.mpr ((pairwise_partitionOf? h ht).imp Sorting.Before.isLE)

section Placed

variable (hr : rows[i]? = some r) (hk : w.partitionKey r = key)

include hr hk

theorem getElem?_position : sorted[position sorted i]? = some (r, i) := by
  have hm : (r, i) ∈ sorted := (mem_partitionOf? h).mpr ⟨hr, hk⟩
  obtain ⟨pos, hpos⟩ := List.getElem?_of_mem hm
  have hplace : (sorted.map Prod.snd)[pos]? = some i := by
    rw [List.getElem?_map, hpos, Option.map_some]
  obtain ⟨hl, hi⟩ := List.getElem?_eq_some_iff.mp hplace
  have hp : position sorted i = pos := by
    rw [position]
    conv_lhs => rw [← hi]
    exact (nodup_places h).idxOf_getElem pos hl
  rw [hp, hpos]

section Evaluated

variable {cells : List Json} (hc : w.evaluate? rows = some cells)

include hc

/-- A partition's cells that follow from its rows stand at the places of those rows. -/
theorem getElem?_evaluated {f : Row → Json}
    (hcells : w.partitionCells? (sorted.map Prod.fst) = some ((sorted.map Prod.fst).map f)) :
    cells[i]? = some (f r) := by
  have hpos := getElem?_position h hr hk
  rw [getElem?_of_evaluate? hc h hcells hpos, List.getElem?_map, List.getElem?_map, hpos]
  rfl

theorem getElem?_rowNumber (hf : w.function = .rowNumber) :
    cells[i]? = some (.ofNat (position sorted i + 1)) := by
  have hpos := getElem?_position h hr hk
  obtain ⟨hl, -⟩ := List.getElem?_eq_some_iff.mp hpos
  have hcells : w.partitionCells? (sorted.map Prod.fst) =
      some ((List.range (sorted.map Prod.fst).length).map fun place => .ofNat (place + 1)) := by
    rw [partitionCells?, hf]
  rw [getElem?_of_evaluate? hc h hcells hpos]
  simp [hl]

variable (ht : TransitiveOn (fun a b => Row.compareOn a b w.orderBy)
  (rows.filter fun r => w.partitionKey r = key))

include ht

theorem getElem?_rank (hf : w.function = .rank) :
    cells[i]? = some (.ofNat (1 + Sorting.countBelow (fun a b => Row.compareOn a b w.orderBy)
      (rows.filter fun r => w.partitionKey r = key) r)) := by
  have hperm := map_fst_partitionOf?_perm h
  refine getElem?_evaluated h hr hk hc (f := fun r => .ofNat (1 + Sorting.countBelow _ _ r)) ?_
  simp only [partitionCells?, hf, List.map_map,
    ranks_eq_countBelow (ht.mono hperm.subset) (pairwise_isLE_partitionOf? h ht),
    Sorting.countBelow_perm hperm]
  rfl

theorem getElem?_denseRank (hf : w.function = .denseRank) :
    cells[i]? = some (.ofNat (1 + (Sorting.classesBelow (fun a b => Row.compareOn a b w.orderBy)
      (rows.filter fun r => w.partitionKey r = key) r).ncard)) := by
  have hperm := map_fst_partitionOf?_perm h
  refine getElem?_evaluated h hr hk hc (f := fun r => .ofNat (1 + (Sorting.classesBelow _ _ r).ncard))
    ?_
  simp only [partitionCells?, hf, List.map_map,
    ranks_eq_classesBelow (ht.mono hperm.subset) (pairwise_isLE_partitionOf? h ht),
    Sorting.classesBelow_perm hperm]
  rfl

end Evaluated
end Placed

theorem bijOn_position :
    Set.BijOn (fun i => position sorted i + 1) {i | ∃ r, rows[i]? = some r ∧ w.partitionKey r = key}
      (Set.Icc 1 (rows.filter fun r => w.partitionKey r = key).length) := by
  rw [← length_partitionOf? h]
  refine ⟨?_, ?_, ?_⟩
  · rintro i ⟨r, hr, hk⟩
    obtain ⟨hl, -⟩ := List.getElem?_eq_some_iff.mp (getElem?_position h hr hk)
    exact ⟨Nat.le_add_left 1 _, hl⟩
  · rintro i ⟨r, hr, hk⟩ j ⟨s, hs, hks⟩ hij
    have hp : position sorted i = position sorted j := Nat.succ.inj hij
    have hi := getElem?_position h hr hk
    rw [hp, getElem?_position h hs hks] at hi
    exact (congrArg Prod.snd (Option.some.inj hi)).symm
  · rintro n ⟨hn, hl⟩
    obtain ⟨pos, rfl⟩ := Nat.exists_eq_add_of_le' hn
    have hpos : pos < (sorted.map Prod.snd).length := by rwa [List.length_map]
    refine ⟨(sorted.map Prod.snd)[pos], ?_, ?_⟩
    · rw [List.getElem_map]
      exact ⟨_, (mem_partitionOf? h).mp (List.getElem_mem hl)⟩
    · exact congrArg (· + 1) ((nodup_places h).idxOf_getElem pos hpos)

end Partition
end WindowField

open Sorting (countBelow classesBelow tieClass) in
/-- Where the order of a window is transitive on a partition, its row numbers count the rows from 1
in that order, level rows as they came; the rank of a row counts the rows below it, and its dense
rank the tie classes below it. Without terms to order by there is one tie class. Such a partition is
evaluated, and together with others if none of them has an order that is not transitive. -/
theorem rankings_count {w : WindowField} {rows : List Row} {key : String}
    (ht : TransitiveOn (fun a b => Row.compareOn a b w.orderBy)
      (rows.filter fun r => w.partitionKey r = key)) :
    let order (a b : Row) := Row.compareOn a b w.orderBy
    let members := rows.filter fun r => w.partitionKey r = key
    let places := {i | ∃ r, rows[i]? = some r ∧ w.partitionKey r = key}
    (∀ cells, w.evaluate? rows = some cells →
      (w.function = .rowNumber → ∃ number : Nat → Nat,
        Set.BijOn number places (Set.Icc 1 members.length) ∧
          (∀ i ∈ places, cells[i]? = some (.ofNat (number i))) ∧
          ∀ (i : Nat) (a : Row) (j : Nat) (b : Row), rows[i]? = some a → w.partitionKey a = key →
            rows[j]? = some b → w.partitionKey b = key →
              (number i < number j ↔ order a b = .lt ∨ order a b = .eq ∧ i < j)) ∧
        ∀ (i : Nat) (r : Row), rows[i]? = some r → w.partitionKey r = key →
          (w.function = .rank → cells[i]? = some (.ofNat (1 + countBelow order members r))) ∧
            (w.function = .denseRank →
              cells[i]? = some (.ofNat (1 + (classesBelow order members r).ncard)))) ∧
      (w.function ≠ .lead →
        (∃ cells, w.evaluate? members = some cells) ∧
          (w.evaluate? rows = none → ∃ other : String,
            Sorting.insertionLength < (rows.filter fun r => w.partitionKey r = other).length ∧
              ¬TransitiveOn order (rows.filter fun r => w.partitionKey r = other))) ∧
      (w.orderBy = [] → ∀ a, tieClass order members a = {b | b ∈ members}) := by
  intro order members places
  refine ⟨fun cells hc => ?_, fun hf => ⟨?_, fun hn => ?_⟩, fun ho a => ?_⟩
  · obtain ⟨sorted, hs⟩ := WindowField.exists_partitionOf? ht
    refine ⟨fun hf => ⟨fun i => WindowField.position sorted i + 1, WindowField.bijOn_position hs,
      ?_, ?_⟩, fun i r hr hk => ⟨WindowField.getElem?_rank hs hr hk hc ht,
        WindowField.getElem?_denseRank hs hr hk hc ht⟩⟩
    · rintro i ⟨r, hr, hk⟩
      exact WindowField.getElem?_rowNumber hs hr hk hc hf
    · intro i a j b ha hka hb hkb
      rw [Nat.add_lt_add_iff_right]
      exact Sorting.lt_iff_before (fun _ _ => Nat.lt_asymm) (WindowField.pairwise_partitionOf? hs ht)
        (WindowField.getElem?_position hs ha hka) (WindowField.getElem?_position hs hb hkb)
  · exact WindowField.exists_evaluate? (.inr ht) fun hl => absurd hl hf
  · obtain ⟨other, hb⟩ := WindowField.evaluate?_eq_none_iff.mp hn
    exact ⟨other, hb.cause.resolve_right fun hl => hf hl.1⟩
  · have htied (b : Row) : order a b = .eq := by
      simp only [order, ho, Row.compareOn]
    simp [tieClass, htied]

def amountRanking (f : WindowFunction) : WindowField :=
  ⟨f, none, "place", [], [⟨"amount", .asc⟩], none, none⟩

/-- Two level rows come first, so the third row has rank 3 and dense rank 2. -/
theorem amountRanking_counts :
    let sale (amount : Int) : Row := ⟨[("amount", .int amount)]⟩
    let rows := [sale 3, sale 3, sale 5]
    ∃ ranks denses numbers, (amountRanking .rank).evaluate? rows = some ranks ∧
      (amountRanking .denseRank).evaluate? rows = some denses ∧
      (amountRanking .rowNumber).evaluate? rows = some numbers ∧
      ranks[2]? = some (.int 3) ∧ denses[2]? = some (.int 2) ∧
      ∃ number : Nat → Nat, number 0 < number 1 ∧ numbers[1]? = some (.ofNat (number 1)) := by
  intro sale rows
  have ht (f : WindowFunction) :
      TransitiveOn (fun a b => Row.compareOn a b (amountRanking f).orderBy)
        (rows.filter fun r => (amountRanking f).partitionKey r =
          (amountRanking f).partitionKey (sale 3)) := by
    change TransitiveOn (fun a b => Row.compareOn a b [⟨"amount", .asc⟩]) rows
    unfold TransitiveOn
    decide
  have hbelow : {r | r ∈ rows ∧ Row.compareOn r (sale 5) [⟨"amount", .asc⟩] = .lt} = {sale 3} := by
    have hthree : Row.compareOn (sale 3) (sale 5) [⟨"amount", .asc⟩] = .lt := rfl
    have hfive : Row.compareOn (sale 5) (sale 5) [⟨"amount", .asc⟩] = .eq := rfl
    ext r
    constructor
    · rintro ⟨hr, hlt⟩
      simp only [rows, List.mem_cons, List.not_mem_nil, or_false] at hr
      rcases hr with rfl | rfl | rfl
      · rfl
      · rfl
      · simp [hfive] at hlt
    · rintro rfl
      exact ⟨List.mem_cons_self, hthree⟩
  have hclasses : (Sorting.classesBelow (fun a b => Row.compareOn a b [⟨"amount", .asc⟩]) rows
      (sale 5)).ncard = 1 := by
    rw [Sorting.classesBelow, hbelow, Set.image_singleton, Set.ncard_singleton]
  have hsome (f : WindowFunction) (hf : f ≠ .lead) :
      ∃ cells, (amountRanking f).evaluate? rows = some cells :=
    WindowField.exists_evaluate? (.inl (by decide)) fun hl => absurd hl hf
  obtain ⟨ranks, hranks⟩ := hsome .rank (by decide)
  obtain ⟨denses, hdenses⟩ := hsome .denseRank (by decide)
  obtain ⟨numbers, hnumbers⟩ := hsome .rowNumber (by decide)
  obtain ⟨-, hrank⟩ := (rankings_count (ht .rank)).1 ranks hranks
  obtain ⟨-, hdense⟩ := (rankings_count (ht .denseRank)).1 denses hdenses
  obtain ⟨hnumber, -⟩ := (rankings_count (ht .rowNumber)).1 numbers hnumbers
  obtain ⟨number, -, hcells, horder⟩ := hnumber rfl
  refine ⟨ranks, denses, numbers, hranks, hdenses, hnumbers,
    ((hrank 2 (sale 5) rfl rfl).1 rfl).trans rfl, ((hdense 2 (sale 5) rfl rfl).2 rfl).trans ?_,
    number, (horder 0 (sale 3) 1 (sale 3) rfl rfl rfl rfl).mpr (.inr ⟨rfl, by decide⟩),
    hcells 1 ⟨sale 3, rfl, rfl⟩⟩
  exact congrArg (fun n => some (Json.ofNat (1 + n))) hclasses

end TableQuery
