import TableQuery.Proofs.Rows.WindowCells

namespace TableQuery

namespace WindowField

variable {w : WindowField} {rows : List Row}

/-- What a shifting window gives for the row at a position of a sorted partition: the cell of the
target row, or the default where there is no such row. -/
def shiftedCell (w : WindowField) (sorted : List Row) (target : Option Nat) : Json :=
  ((target.bind fun t => sorted[t]?).map fun r => (w.sourceCell r).getD .null).getD
    (w.fallback.getD .null)

theorem cellAt_eq_shiftedCell (w : WindowField) (sorted : List Row) (target : Option Nat) :
    w.cellAt (sorted.map w.sourceCell).toArray target = w.shiftedCell sorted target := by
  have hcells (t : Nat) : (sorted.map w.sourceCell).toArray[t]? = sorted[t]?.map w.sourceCell := by
    simp
  simp only [cellAt, shiftedCell, hcells]
  cases target with
  | none => rfl
  | some t => cases ht : sorted[t]? <;> simp [ht]

section Cells

variable {sorted : List Row} {own : List Json} {pos : Nat} (hpos : pos < sorted.length)

include hpos

theorem getElem?_lagCells :
    (w.lagCells sorted)[pos]? = some (w.shiftedCell sorted (earlierPlace? pos w.distance)) := by
  simp only [lagCells, List.getElem?_map, List.getElem?_range hpos, Option.map_some,
    cellAt_eq_shiftedCell]

theorem getElem?_leadCells? (h : w.leadCells? sorted = some own) :
    own[pos]? = some (w.shiftedCell sorted (some (pos + w.distance))) := by
  rw [(leadCells?_eq_some_iff.mp h).2, List.getElem?_map, List.getElem?_range hpos, Option.map_some,
    cellAt_eq_shiftedCell]

end Cells

/-- Every row has the cell of the target of its position in its sorted partition. -/
def ShiftsTo (w : WindowField) (rows : List Row) (target : Nat → Option Nat) : Prop :=
  ∃ cells, w.evaluate? rows = some cells ∧
    ∀ (key : String) (sorted : List Placed), w.partitionOf? rows key = some sorted →
      ∀ (pos i : Nat) (r : Row), sorted[pos]? = some (r, i) →
        cells[i]? = some (w.shiftedCell (sorted.map Prod.fst) (target pos))

/-- Where the cells of a partition are those of the targets, all rows have them once there are any. -/
theorem shiftsTo_iff {target : Nat → Option Nat}
    (h : ∀ sorted own, w.partitionCells? sorted = some own → ∀ pos < sorted.length,
      own[pos]? = some (w.shiftedCell sorted (target pos))) :
    w.ShiftsTo rows target ↔ ∃ cells, w.evaluate? rows = some cells := by
  refine ⟨fun ⟨cells, hc, _⟩ => ⟨cells, hc⟩, fun ⟨cells, hc⟩ => ⟨cells, hc, ?_⟩⟩
  intro key sorted hs pos i r hpos
  obtain ⟨hr, hk⟩ := (mem_partitionOf? hs).mp (List.mem_of_getElem? hpos)
  obtain ⟨sorted', own, hs', ho, hat⟩ := exists_partition hc ⟨r, List.mem_of_getElem? hr, hk⟩
  obtain rfl := Option.some.inj (hs.symm.trans hs')
  obtain ⟨hl, -⟩ := List.getElem?_eq_some_iff.mp hpos
  rw [hat pos (r, i) hpos]
  exact h _ own ho pos (by rwa [List.length_map])

theorem shiftsTo_lag_iff (hf : w.function = .lag) :
    w.ShiftsTo rows (fun pos => if w.distance ≤ pos then some (pos - w.distance) else none) ↔
      ∃ cells, w.evaluate? rows = some cells := by
  refine shiftsTo_iff fun sorted own ho pos hpos => ?_
  simp only [partitionCells?, hf, Option.some.injEq] at ho
  rw [← ho]
  exact getElem?_lagCells hpos

theorem shiftsTo_lead_iff (hf : w.function = .lead) :
    w.ShiftsTo rows (fun pos => some (pos + w.distance)) ↔
      ∃ cells, w.evaluate? rows = some cells := by
  refine shiftsTo_iff fun sorted own ho pos hpos => ?_
  simp only [partitionCells?, hf] at ho
  exact getElem?_leadCells? hpos ho

end WindowField

/-- Each row of a sorted partition gets the cell of the row a distance before it, or the default where
there is none. The same holds for the row a distance behind it exactly if no place behind a row is
2^64 or above; else there are no cells. Only a long partition whose order is not transitive may have
no sorted order. -/
theorem shifted_cells_iff (w : WindowField) (rows : List Row) :
    (w.function = .lag →
      (w.ShiftsTo rows (fun pos => if w.distance ≤ pos then some (pos - w.distance) else none) ↔
        w.SortsAll rows)) ∧
      (w.function = .lead →
        (w.ShiftsTo rows (fun pos => some (pos + w.distance)) ↔
          w.SortsAll rows ∧
            ∀ key, ∀ pos < (rows.filter fun r => w.partitionKey r = key).length,
              pos + w.distance < UInt64.size) ∧
          (¬w.ShiftsTo rows (fun pos => some (pos + w.distance)) → w.evaluate? rows = none)) ∧
      (¬w.SortsAll rows → ∃ key,
        Sorting.insertionLength < (rows.filter fun r => w.partitionKey r = key).length ∧
          ¬TransitiveOn (fun a b => Row.compareOn a b w.orderBy)
            (rows.filter fun r => w.partitionKey r = key)) := by
  refine ⟨fun hf => ?_, fun hf => ⟨?_, fun hn => ?_⟩, WindowField.exists_of_not_sortsAll⟩
  · rw [WindowField.shiftsTo_lag_iff hf, WindowField.evaluate?_isSome_iff]
    exact and_iff_left fun hlead => by simp [hf] at hlead
  · rw [WindowField.shiftsTo_lead_iff hf, WindowField.evaluate?_isSome_iff]
    exact and_congr_right fun _ => ⟨fun h => h hf, fun h _ => h⟩
  · rw [WindowField.shiftsTo_lead_iff hf, ← Option.ne_none_iff_exists', not_ne_iff] at hn
    exact hn

def shifted (f : WindowFunction) (offset : Nat) : WindowField :=
  ⟨f, some "amount", "other", [], [], some offset, none⟩

def twoAmounts : List Row := [⟨[("amount", .int 1)]⟩, ⟨[("amount", .int 2)]⟩]

/-- There is no row 2^64 - 1 behind either of two, so both have the default; but none has a cell. -/
theorem twoAmounts_lost :
    let w := shifted .lead (UInt64.size - 1)
    w.distance < UInt64.size ∧
      w.partitionOf? twoAmounts "" = some twoAmounts.zipIdx ∧
      (∀ pos < 2, w.shiftedCell twoAmounts (some (pos + w.distance)) = .null) ∧
      w.evaluate? twoAmounts = none := by
  intro w
  have hd : w.distance = UInt64.size - 1 := rfl
  refine ⟨by rw [hd]; decide, rfl, fun pos hpos => ?_, ?_⟩
  · rw [WindowField.shiftedCell, Option.bind_some, List.getElem?_eq_none]
    · rfl
    · rw [hd]
      exact Nat.le_add_left_of_le (by decide)
  · refine WindowField.evaluate?_eq_none_iff.mpr ⟨"", .inr ⟨rfl, List.cons_ne_nil _ _, ?_⟩⟩
    change UInt64.size < 2 + (UInt64.size - 1)
    decide

end TableQuery
