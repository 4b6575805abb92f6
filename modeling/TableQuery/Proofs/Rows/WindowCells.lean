import TableQuery.Proofs.Rows.Groups
import TableQuery.Proofs.Rows.RowOrder
import TableQuery.Proofs.Sorting.Parting

namespace TableQuery

open Std (OrientedCmp)

theorem gather_keyed {α : Type} (key : α → String) (xs : List α) :
    gather (xs.map fun x => (key x, x)) =
      (xs.map key).eraseDups.map fun k => (k, xs.filter fun x => key x = k) := by
  have hm (k : String) : ((xs.map fun x => (key x, x)).filter fun p => p.1 = k).map Prod.snd =
      xs.filter fun x => key x = k := by
    rw [List.filter_map, List.map_map]
    exact List.map_id _
  simp only [gather, hm, List.map_map]
  rfl

namespace Arithmetic

variable {α : Type} [Arithmetic α]

theorem length_running (total : α) (count : Nat) (xs : List (Option α)) :
    (running total count xs).length = xs.length := by
  induction xs generalizing total count with
  | nil => rfl
  | cons x xs ih => cases x <;> simp [running, ih]

end Arithmetic

namespace Row

instance (orderBy : List OrderTerm) : OrientedCmp fun a b : Row => compareOn a b orderBy where
  eq_swap := compareOn_swap _ _ orderBy

end Row

namespace WindowField

variable {w : WindowField} {rows : List Row} {key : String}

instance (orderBy : List OrderTerm) :
    OrientedCmp fun a b : Placed => Row.compareOn a.1 b.1 orderBy where
  eq_swap := Row.compareOn_swap _ _ orderBy

def membersOf (w : WindowField) (rows : List Row) (key : String) : List Placed :=
  rows.zipIdx.filter fun p => w.partitionKey p.1 = key

def partitionOf? (w : WindowField) (rows : List Row) (key : String) : Option (List Placed) :=
  w.sort? (w.membersOf rows key)

theorem map_fst_membersOf (w : WindowField) (rows : List Row) (key : String) :
    (w.membersOf rows key).map Prod.fst = rows.filter fun r => w.partitionKey r = key := by
  conv_rhs => rw [← List.zipIdx_map_fst 0 rows, List.filter_map]
  rfl

theorem mem_membersOf {p : Placed} :
    p ∈ w.membersOf rows key ↔ rows[p.2]? = some p.1 ∧ w.partitionKey p.1 = key := by
  rw [membersOf, List.mem_filter, List.mem_zipIdx_iff_getElem?, decide_eq_true_eq]

theorem pairwise_membersOf (w : WindowField) (rows : List Row) (key : String) :
    (w.membersOf rows key).Pairwise fun a b => a.2 < b.2 := by
  have hplaces : rows.zipIdx.Pairwise fun a b => a.2 < b.2 := by
    rw [← List.pairwise_map (f := Prod.snd), List.zipIdx_map_snd]
    exact List.pairwise_lt_range'
  exact hplaces.sublist List.filter_sublist

theorem partitions_eq (w : WindowField) (rows : List Row) :
    w.partitions rows = (rows.map w.partitionKey).eraseDups.map (w.membersOf rows) := by
  have hkeys : (rows.zipIdx.map fun p => w.partitionKey p.1) = rows.map w.partitionKey := by
    conv_rhs => rw [← List.zipIdx_map_fst 0 rows, List.map_map]
    rfl
  rw [partitions, gather_keyed fun p : Placed => w.partitionKey p.1, List.map_map, hkeys]
  rfl

theorem map_sort? (w : WindowField) (partition : List Placed) :
    (w.sort? partition).map (List.map Prod.fst) =
      Sorting.sort? (fun a b => Row.compareOn a b w.orderBy) placeSize (partition.map Prod.fst) := by
  refine Sorting.map_sort? ?_ placeSize partition
  exact fun _ _ => rfl

section Partition

variable {sorted : List Placed} (h : w.partitionOf? rows key = some sorted)

include h

theorem partitionOf?_perm : sorted.Perm (w.membersOf rows key) :=
  Sorting.sort?_perm h

theorem mem_partitionOf? {p : Placed} :
    p ∈ sorted ↔ rows[p.2]? = some p.1 ∧ w.partitionKey p.1 = key := by
  rw [(partitionOf?_perm h).mem_iff, mem_membersOf]

theorem map_fst_partitionOf?_perm :
    (sorted.map Prod.fst).Perm (rows.filter fun r => w.partitionKey r = key) := by
  rw [← map_fst_membersOf]
  exact (partitionOf?_perm h).map Prod.fst

theorem length_partitionOf? :
    sorted.length = (rows.filter fun r => w.partitionKey r = key).length := by
  rw [← (map_fst_partitionOf?_perm h).length_eq, List.length_map]

theorem nodup_places : (sorted.map Prod.snd).Nodup := by
  rw [((partitionOf?_perm h).map Prod.snd).nodup_iff]
  exact List.pairwise_map.mpr ((w.pairwise_membersOf rows key).imp ne_of_lt)

end Partition

section Lengths

theorem length_ranksFrom (orderBy : List OrderTerm) (dense : Bool) (place rank : Nat)
    (previous : Row) (rows : List Row) :
    (ranksFrom orderBy dense place rank previous rows).length = rows.length := by
  induction rows generalizing place rank previous with
  | nil => rfl
  | cons r rest ih => simp [ranksFrom, ih]

theorem length_ranks (orderBy : List OrderTerm) (dense : Bool) (rows : List Row) :
    (ranks orderBy dense rows).length = rows.length := by
  cases rows <;> simp [ranks, length_ranksFrom]

theorem laterPlace?_eq_none_iff {place distance : Nat} :
    laterPlace? place distance = none ↔ UInt64.size ≤ place + distance := by
  rw [laterPlace?, ite_eq_right_iff]
  simp

theorem leadCells?_eq_some_iff {cells : List Json} :
    w.leadCells? rows = some cells ↔
      (∀ place < rows.length, place + w.distance < UInt64.size) ∧
        cells = (List.range rows.length).map fun place =>
          w.cellAt (rows.map w.sourceCell).toArray (some (place + w.distance)) := by
  rw [leadCells?, mapM_eq_some_iff]
  constructor
  · intro h
    have hplace : ∀ place < rows.length, place + w.distance < UInt64.size := by
      intro place hp
      by_contra hn
      have hnone : none ∈ cells.map some := by
        rw [← h]
        refine List.mem_map.mpr ⟨place, List.mem_range.mpr hp, ?_⟩
        rw [laterPlace?_eq_none_iff.mpr (Nat.le_of_not_lt hn), Option.map_none]
      simp at hnone
    refine ⟨hplace, (Option.some_injective _).list_map ?_⟩
    rw [← h, List.map_map]
    refine List.map_congr_left fun place hp => ?_
    rw [laterPlace?, if_pos (hplace place (List.mem_range.mp hp))]
    rfl
  · rintro ⟨hplace, rfl⟩
    rw [List.map_map]
    refine List.map_congr_left fun place hp => ?_
    rw [laterPlace?, if_pos (hplace place (List.mem_range.mp hp))]
    rfl

theorem length_of_partitionCells? {cells : List Json} (h : w.partitionCells? rows = some cells) :
    cells.length = rows.length := by
  unfold partitionCells? at h
  cases hf : w.function <;> simp only [hf, Option.some.injEq] at h
  case lead => simp [(leadCells?_eq_some_iff.mp h).2]
  all_goals
    rw [← h]
    simp [lagCells, length_ranks, runningCells, sourceNumbers, Arithmetic.length_running,
      Arithmetic.shares]

theorem partitionCells?_eq_none_iff :
    w.partitionCells? rows = none ↔
      w.function = .lead ∧ rows ≠ [] ∧ UInt64.size < rows.length + w.distance := by
  unfold partitionCells?
  cases hf : w.function with
  | lead =>
      rw [leadCells?, mapM_eq_none_iff]
      simp only [List.mem_range, Option.map_eq_none_iff, laterPlace?_eq_none_iff, true_and]
      constructor
      · rintro ⟨place, hp, hl⟩
        exact ⟨List.ne_nil_of_length_pos (by omega), by omega⟩
      · rintro ⟨hn, hl⟩
        have hpos := List.length_pos_of_ne_nil hn
        exact ⟨rows.length - 1, by omega, by omega⟩
  | _ => simp

end Lengths

section Placed

theorem placedCells?_eq_some_iff {partition : List Placed} {placed : List (Nat × Json)} :
    w.placedCells? partition = some placed ↔
      ∃ sorted cells, w.sort? partition = some sorted ∧
        w.partitionCells? (sorted.map Prod.fst) = some cells ∧
          (sorted.map Prod.snd).zip cells = placed := by
  simp [placedCells?, Option.bind_eq_some_iff]

/-- A partition is not evaluated if it is not sorted, or if it leads to a place that is no word. -/
theorem placedCells?_eq_none_iff {partition : List Placed} :
    w.placedCells? partition = none ↔
      Sorting.sort? (fun a b => Row.compareOn a b w.orderBy) placeSize (partition.map Prod.fst) =
          none ∨
        w.function = .lead ∧ partition ≠ [] ∧ UInt64.size < partition.length + w.distance := by
  rw [← map_sort?, Option.map_eq_none_iff, placedCells?]
  cases hs : w.sort? partition with
  | none => simp
  | some sorted =>
      have hperm : sorted.Perm partition := Sorting.sort?_perm hs
      have hcells : w.partitionCells? (sorted.map Prod.fst) = none ↔ _ := partitionCells?_eq_none_iff
      have hnil : sorted = [] ↔ partition = [] := by
        rw [← List.length_eq_zero_iff, hperm.length_eq, List.length_eq_zero_iff]
      rw [List.length_map, hperm.length_eq, ne_eq, List.map_eq_nil_iff, hnil] at hcells
      rw [ne_eq, ← hcells]
      cases hc : w.partitionCells? (sorted.map Prod.fst) <;> simp [hc]

/-- The evaluation of the rows of one key breaks off: their sort does, or the window leads from one
of them to a place that is no word. -/
def BreaksOffAt (w : WindowField) (rows : List Row) (key : String) : Prop :=
  let members := rows.filter fun r => w.partitionKey r = key
  Sorting.sort? (fun a b => Row.compareOn a b w.orderBy) placeSize members = none ∨
    w.function = .lead ∧ members ≠ [] ∧ UInt64.size < members.length + w.distance

theorem breaksOffAt_iff :
    w.BreaksOffAt rows key ↔ w.placedCells? (w.membersOf rows key) = none := by
  have hnil : w.membersOf rows key = [] ↔ (rows.filter fun r => w.partitionKey r = key) = [] := by
    rw [← map_fst_membersOf, List.map_eq_nil_iff]
  have hlength : (w.membersOf rows key).length =
      (rows.filter fun r => w.partitionKey r = key).length := by
    rw [← map_fst_membersOf, List.length_map]
  rw [placedCells?_eq_none_iff, ne_eq, hnil, hlength, map_fst_membersOf, BreaksOffAt]

/-- A partition breaks off only for one of two reasons. -/
theorem BreaksOffAt.cause (h : w.BreaksOffAt rows key) :
    let members := rows.filter fun r => w.partitionKey r = key
    (Sorting.insertionLength < members.length ∧
        ¬TransitiveOn (fun a b => Row.compareOn a b w.orderBy) members) ∨
      w.function = .lead ∧ UInt64.size < members.length + w.distance :=
  h.imp Sorting.not_transitive_of_sort?_eq_none fun hl => ⟨hl.1, hl.2.2⟩

theorem evaluate?_eq_none_iff : w.evaluate? rows = none ↔ ∃ key, w.BreaksOffAt rows key := by
  have hmap : w.evaluate? rows = ((w.partitions rows).mapM w.placedCells?).map fun placed =>
      (placed.flatten.mergeSort fun a b => a.1 ≤ b.1).map Prod.snd :=
    Option.map_eq_bind.symm
  rw [hmap, Option.map_eq_none_iff, mapM_eq_none_iff, partitions_eq]
  simp only [List.mem_map, List.mem_eraseDups, breaksOffAt_iff]
  constructor
  · rintro ⟨_, ⟨key, -, rfl⟩, h⟩
    exact ⟨key, h⟩
  · rintro ⟨key, h⟩
    refine ⟨_, ⟨key, ?_, rfl⟩, h⟩
    by_contra hn
    have hnil : w.membersOf rows key = [] := by
      rw [List.eq_nil_iff_forall_not_mem]
      intro p hp
      obtain ⟨hr, hk⟩ := mem_membersOf.mp hp
      exact hn ⟨p.1, List.mem_of_getElem? hr, hk⟩
    rw [hnil, placedCells?_eq_none_iff] at h
    simp [Sorting.sort?, Sorting.insertionLength] at h

variable {cells : List Json} {placed : List (List (Nat × Json))}

theorem flatten_placed_perm {partitions : List (List Placed)}
    (h : partitions.mapM w.placedCells? = some placed) :
    (placed.flatten.map Prod.fst).Perm (partitions.flatten.map Prod.snd) := by
  induction partitions generalizing placed with
  | nil =>
      obtain rfl : [] = placed := by simpa using h
      rfl
  | cons partition rest ih =>
      cases hp : w.placedCells? partition with
      | none => simp [mapM_cons_of_eq_none hp] at h
      | some front =>
          rw [mapM_cons_of_eq_some hp] at h
          obtain ⟨others, ho, rfl⟩ := Option.map_eq_some_iff.mp h
          obtain ⟨sorted, cells, hs, hc, rfl⟩ := placedCells?_eq_some_iff.mp hp
          have hl := length_of_partitionCells? hc
          rw [List.length_map] at hl
          rw [List.flatten_cons, List.flatten_cons, List.map_append, List.map_append,
            List.map_fst_zip (by rw [List.length_map, hl])]
          exact ((Sorting.sort?_perm hs).map Prod.snd).append (ih ho)

theorem partitions_perm (w : WindowField) (rows : List Row) :
    (w.partitions rows).flatten.Perm rows.zipIdx := by
  have hg := gather_perm (rows.zipIdx.map fun p => (w.partitionKey p.1, p))
  rw [List.map_map] at hg
  rw [partitions, ← List.flatMap_def]
  exact hg.trans (List.Perm.of_eq (List.map_id _))

theorem evaluate?_eq_some_iff :
    w.evaluate? rows = some cells ↔ ∃ placed, (w.partitions rows).mapM w.placedCells? = some placed ∧
      (placed.flatten.mergeSort fun a b => a.1 ≤ b.1).map Prod.snd = cells := by
  simp [evaluate?, Option.bind_eq_some_iff]

theorem places_mergeSort (h : (w.partitions rows).mapM w.placedCells? = some placed) :
    (placed.flatten.mergeSort fun a b => a.1 ≤ b.1).map Prod.fst = List.range rows.length := by
  have hsorted : (placed.flatten.mergeSort fun a b => a.1 ≤ b.1).Pairwise fun a b => a.1 ≤ b.1 := by
    have hle : (placed.flatten.mergeSort fun a b => a.1 ≤ b.1).Pairwise fun a b =>
        decide (a.1 ≤ b.1) = true := by
      refine List.pairwise_mergeSort (fun a b c hab hbc => ?_) (fun a b => ?_) _
      · exact decide_eq_true (le_trans (of_decide_eq_true hab) (of_decide_eq_true hbc))
      · simpa using le_total a.1 b.1
    exact hle.imp of_decide_eq_true
  have hplaces : ((placed.flatten.mergeSort fun a b => a.1 ≤ b.1).map Prod.fst).Perm
      (List.range rows.length) := by
    rw [List.range_eq_range', ← List.zipIdx_map_snd 0 rows]
    exact ((List.mergeSort_perm _ _).map Prod.fst).trans
      ((flatten_placed_perm h).trans ((w.partitions_perm rows).map Prod.snd))
  exact hplaces.eq_of_pairwise' (List.pairwise_map.mpr hsorted) List.pairwise_le_range

section Evaluated

variable (h : w.evaluate? rows = some cells)

include h

theorem length_of_evaluate? : cells.length = rows.length := by
  obtain ⟨placed, hp, rfl⟩ := evaluate?_eq_some_iff.mp h
  have hl := congrArg List.length (places_mergeSort hp)
  rwa [List.length_map, List.length_range, ← List.length_map (f := Prod.snd)] at hl

/-- A partition of evaluated rows is sorted and has cells, and at the place of each row stands the
cell of its position in the partition. -/
theorem exists_partition (hk : ∃ r ∈ rows, w.partitionKey r = key) :
    ∃ sorted own, w.partitionOf? rows key = some sorted ∧
      w.partitionCells? (sorted.map Prod.fst) = some own ∧
      ∀ (pos : Nat) (p : Placed), sorted[pos]? = some p → cells[p.2]? = own[pos]? := by
  obtain ⟨placed, hp, rfl⟩ := evaluate?_eq_some_iff.mp h
  obtain ⟨r, hr, rfl⟩ := hk
  have hpartition : w.membersOf rows (w.partitionKey r) ∈ w.partitions rows := by
    rw [partitions_eq]
    exact List.mem_map_of_mem (List.mem_eraseDups.mpr (List.mem_map_of_mem hr))
  have hsome : w.placedCells? (w.membersOf rows (w.partitionKey r)) ∈ placed.map some := by
    rw [← mapM_eq_some_iff.mp hp]
    exact List.mem_map_of_mem hpartition
  obtain ⟨front, hfront, he⟩ := List.mem_map.mp hsome
  obtain ⟨sorted, own, hs, hc, rfl⟩ := placedCells?_eq_some_iff.mp he.symm
  refine ⟨sorted, own, hs, hc, fun pos p hpos => ?_⟩
  have hown : pos < own.length := by
    obtain ⟨hl, -⟩ := List.getElem?_eq_some_iff.mp hpos
    rwa [length_of_partitionCells? hc, List.length_map]
  have hmem : (p.2, own[pos]) ∈ placed.flatten.mergeSort fun a b => a.1 ≤ b.1 := by
    rw [List.mem_mergeSort, List.mem_flatten]
    refine ⟨_, hfront, List.mem_of_getElem? (i := pos) ?_⟩
    rw [List.getElem?_zip_eq_some, List.getElem?_map, hpos]
    exact ⟨rfl, List.getElem?_eq_getElem hown⟩
  obtain ⟨k, hk⟩ := List.getElem?_of_mem hmem
  have hplace : (List.range rows.length)[k]? = some p.2 := by
    rw [← places_mergeSort hp, List.getElem?_map, hk, Option.map_some]
  obtain ⟨hl, hkp⟩ := List.getElem?_eq_some_iff.mp hplace
  rw [List.getElem_range] at hkp
  rw [← hkp, List.getElem?_map, hk, Option.map_some, List.getElem?_eq_getElem hown]

theorem getElem?_of_evaluate? {sorted : List Placed} {own : List Json}
    (hs : w.partitionOf? rows key = some sorted)
    (ho : w.partitionCells? (sorted.map Prod.fst) = some own) {pos : Nat} {p : Placed}
    (hp : sorted[pos]? = some p) : cells[p.2]? = own[pos]? := by
  obtain ⟨hr, hk⟩ := (mem_partitionOf? hs).mp (List.mem_of_getElem? hp)
  obtain ⟨sorted', own', hs', ho', hat⟩ := exists_partition h ⟨p.1, List.mem_of_getElem? hr, hk⟩
  obtain rfl := Option.some.inj (hs.symm.trans hs')
  obtain rfl := Option.some.inj (ho.symm.trans ho')
  exact hat pos p hp

end Evaluated

/-- Few rows or rows in a transitive order are evaluated, if no place behind them is too large. -/
theorem exists_evaluate? (ht : rows.length ≤ Sorting.insertionLength ∨
      TransitiveOn (fun a b => Row.compareOn a b w.orderBy) rows)
    (hl : w.function = .lead → rows.length + w.distance ≤ UInt64.size) :
    ∃ cells, w.evaluate? rows = some cells := by
  apply Option.ne_none_iff_exists'.mp
  rw [ne_eq, evaluate?_eq_none_iff]
  rintro ⟨key, hb⟩
  have hfilter := List.length_filter_le (fun r => w.partitionKey r = key) rows
  rcases hb.cause with ⟨hlong, hn⟩ | ⟨hlead, hlarge⟩
  · rcases ht with hshort | ht
    · omega
    · exact hn (ht.mono (List.filter_subset_self rows))
  · have := hl hlead
    omega

/-- Each partition has a sorted order. -/
def SortsAll (w : WindowField) (rows : List Row) : Prop :=
  ∀ key, ∃ sorted, w.partitionOf? rows key = some sorted

theorem partitionOf?_eq_none_iff {key : String} :
    w.partitionOf? rows key = none ↔
      Sorting.sort? (fun a b => Row.compareOn a b w.orderBy) placeSize
        (rows.filter fun r => w.partitionKey r = key) = none := by
  rw [← map_fst_membersOf, ← map_sort?, Option.map_eq_none_iff, partitionOf?]

theorem exists_of_not_sortsAll (h : ¬w.SortsAll rows) :
    ∃ key, Sorting.insertionLength < (rows.filter fun r => w.partitionKey r = key).length ∧
      ¬TransitiveOn (fun a b => Row.compareOn a b w.orderBy)
        (rows.filter fun r => w.partitionKey r = key) := by
  obtain ⟨key, hk⟩ := not_forall.mp h
  rw [← Option.ne_none_iff_exists', not_ne_iff, partitionOf?_eq_none_iff] at hk
  exact ⟨key, Sorting.not_transitive_of_sort?_eq_none hk⟩

theorem breaksOffAt_iff_partitionOf? {key : String} :
    w.BreaksOffAt rows key ↔ w.partitionOf? rows key = none ∨
      w.function = .lead ∧
        ∃ pos < (rows.filter fun r => w.partitionKey r = key).length,
          UInt64.size ≤ pos + w.distance := by
  rw [partitionOf?_eq_none_iff, BreaksOffAt]
  refine or_congr_right (and_congr_right fun _ => ⟨?_, ?_⟩)
  · rintro ⟨hn, hl⟩
    have hpos := List.length_pos_of_ne_nil hn
    exact ⟨_, Nat.sub_one_lt_of_lt hpos, by omega⟩
  · rintro ⟨pos, hp, hl⟩
    exact ⟨List.ne_nil_of_length_pos (by omega), by omega⟩

theorem evaluate?_isSome_iff :
    (∃ cells, w.evaluate? rows = some cells) ↔ w.SortsAll rows ∧
      (w.function = .lead →
        ∀ key, ∀ pos < (rows.filter fun r => w.partitionKey r = key).length,
          pos + w.distance < UInt64.size) := by
  rw [← Option.ne_none_iff_exists', ne_eq, evaluate?_eq_none_iff]
  simp only [breaksOffAt_iff_partitionOf?, not_exists, not_or, not_and, Nat.not_le, SortsAll]
  rw [forall_and]
  refine and_congr (forall_congr' fun key => Option.ne_none_iff_exists') ?_
  exact ⟨fun h hf key => h key hf, fun h key hf => h hf key⟩

end Placed

section Reads

def columnsRead (w : WindowField) : List String :=
  w.sourceColumn.toList ++ w.partitionColumns ++ w.orderBy.map fun t => outputName t.field

variable {f : Row → Row} (h : ∀ r, ∀ c ∈ w.columnsRead, (f r).get? c = r.get? c)

include h

theorem partitionKey_map (r : Row) : w.partitionKey (f r) = w.partitionKey r := by
  rw [partitionKey, partitionKey]
  congr 1
  exact List.map_congr_left fun c hc => h r c (by simp [columnsRead, hc])

theorem compareOn_map (a b : Row) :
    Row.compareOn (f a) (f b) w.orderBy = Row.compareOn a b w.orderBy := by
  refine Row.compareOn_congr fun t ht => ?_
  have hc : outputName t.field ∈ w.columnsRead :=
    List.mem_append_right _ (List.mem_map_of_mem ht)
  exact ⟨h a _ hc, h b _ hc⟩

theorem sourceCell_map (r : Row) : w.sourceCell (f r) = w.sourceCell r := by
  cases hs : w.sourceColumn with
  | none => rw [sourceCell, sourceCell, hs, Option.bind_none, Option.bind_none]
  | some c =>
      rw [sourceCell, sourceCell, hs, Option.bind_some, Option.bind_some]
      exact h r c (by simp [columnsRead, hs])

theorem ranksFrom_map (dense : Bool) (place rank : Nat) (previous : Row) (rows : List Row) :
    ranksFrom w.orderBy dense place rank (f previous) (rows.map f) =
      ranksFrom w.orderBy dense place rank previous rows := by
  induction rows generalizing place rank previous with
  | nil => rfl
  | cons r rest ih => simp only [List.map_cons, ranksFrom, compareOn_map h, ih]

theorem ranks_map (dense : Bool) (rows : List Row) :
    ranks w.orderBy dense (rows.map f) = ranks w.orderBy dense rows := by
  cases rows with
  | nil => rfl
  | cons r rest => simp only [List.map_cons, ranks, ranksFrom_map h]

theorem partitionCells?_map (rows : List Row) :
    w.partitionCells? (rows.map f) = w.partitionCells? rows := by
  have hcells : (rows.map f).map w.sourceCell = rows.map w.sourceCell := by
    rw [List.map_map]
    exact List.map_congr_left fun r _ => sourceCell_map h r
  have hnumbers : w.sourceNumbers (rows.map f) = w.sourceNumbers rows := by
    rw [sourceNumbers, List.map_map]
    exact List.map_congr_left fun r _ => congrArg (Option.bind · Cell.number?) (sourceCell_map h r)
  unfold partitionCells?
  simp only [lagCells, leadCells?, hcells, hnumbers, ranks_map h, List.length_map]

theorem placedCells?_map (partition : List Placed) :
    w.placedCells? (partition.map (Prod.map f id)) = w.placedCells? partition := by
  have hsort : w.sort? (partition.map (Prod.map f id)) =
      (w.sort? partition).map (List.map (Prod.map f id)) := by
    refine (Sorting.map_sort? (fun a b => ?_) placeSize partition).symm
    exact (compareOn_map h a.1 b.1).symm
  rw [placedCells?, placedCells?, hsort]
  cases w.sort? partition with
  | none => rfl
  | some sorted =>
      have hrows : (sorted.map (Prod.map f id)).map Prod.fst = (sorted.map Prod.fst).map f := by
        rw [List.map_map, List.map_map]
        rfl
      have hplaces : (sorted.map (Prod.map f id)).map Prod.snd = sorted.map Prod.snd := by
        rw [List.map_map]
        rfl
      simp only [Option.map_some, Option.bind_eq_bind, Option.bind_some, hrows, hplaces,
        partitionCells?_map h]

/-- Rows that are read alike get the same cells. -/
theorem evaluate?_map (rows : List Row) : w.evaluate? (rows.map f) = w.evaluate? rows := by
  have hpartitions : w.partitions (rows.map f) =
      (w.partitions rows).map (List.map (Prod.map f id)) := by
    have hkeys : (rows.map f).map w.partitionKey = rows.map w.partitionKey := by
      rw [List.map_map]
      exact List.map_congr_left fun r _ => partitionKey_map h r
    rw [partitions_eq, partitions_eq, hkeys, List.map_map]
    refine List.map_congr_left fun key _ => ?_
    rw [Function.comp_apply, membersOf, membersOf, List.zipIdx_map, List.filter_map]
    congr 1
    refine List.filter_congr fun p _ => ?_
    rw [Function.comp_apply, Prod.map_fst, partitionKey_map h]
  have hplaced : w.placedCells? ∘ List.map (Prod.map f id) = w.placedCells? :=
    funext (placedCells?_map h)
  rw [evaluate?, evaluate?, hpartitions, List.mapM_map, hplaced]

end Reads

end WindowField
end TableQuery
