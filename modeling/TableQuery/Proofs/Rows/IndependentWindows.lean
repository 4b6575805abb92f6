import TableQuery.Proofs.Rows.RowCells
import TableQuery.Proofs.Rows.WindowCells
import TableQuery.Proofs.Validation.Acceptance

namespace TableQuery

namespace Row

def tabulate (columns : List String) (cell : String → Option Json) : Row :=
  ⟨columns.filterMap fun c => (cell c).map fun j => (c, j)⟩

theorem get?_tabulate (columns : List String) (cell : String → Option Json) (column : String) :
    (tabulate columns cell).get? column = if column ∈ columns then cell column else none := by
  induction columns with
  | nil => rfl
  | cons c rest ih =>
      rw [get?, tabulate] at ih ⊢
      by_cases hc : c = column
      · subst hc
        cases hj : cell c with
        | none => simpa [hj] using ih
        | some j => simp [hj]
      · cases hj : cell c <;> simpa [hj, hc, Ne.symm hc] using ih

end Row

namespace WindowField

variable {w v : WindowField} {rows rows' : List Row} {cells : List Json}

/-- The cells of a window depend on the columns it reads. -/
theorem evaluate?_congr {α : Type} {xs : List α} {f g : α → Row}
    (h : ∀ x ∈ xs, ∀ c ∈ w.columnsRead, (f x).get? c = (g x).get? c) :
    w.evaluate? (xs.map f) = w.evaluate? (xs.map g) := by
  let only (r : Row) : Row := Row.tabulate w.columnsRead r.get?
  have honly : ∀ r : Row, ∀ c ∈ w.columnsRead, (only r).get? c = r.get? c := by
    intro r c hc
    rw [Row.get?_tabulate, if_pos hc]
  have hfg : (xs.map f).map only = (xs.map g).map only := by
    rw [List.map_map, List.map_map]
    refine List.map_congr_left fun x hx => ?_
    simp only [Function.comp_apply, only, Row.tabulate]
    congr 1
    exact List.filterMap_congr fun c hc => by rw [h x hx c hc]
  rw [← evaluate?_map honly (xs.map f), hfg, evaluate?_map honly]

section Added

theorem addTo?_eq_some_iff :
    w.addTo? rows = some rows' ↔ ∃ cells, w.evaluate? rows = some cells ∧
      (rows.zip cells).map (fun p => p.1.put w.label p.2) = rows' :=
  Option.map_eq_some_iff

theorem addTo?_eq_none_iff : w.addTo? rows = none ↔ w.evaluate? rows = none :=
  Option.map_eq_none_iff

theorem zip_evaluate? (h : w.evaluate? rows = some cells) : (rows.zip cells).map Prod.fst = rows :=
  List.map_fst_zip (length_of_evaluate? h).ge

theorem length_of_addTo? (h : w.addTo? rows = some rows') : rows'.length = rows.length := by
  obtain ⟨cells, hc, rfl⟩ := addTo?_eq_some_iff.mp h
  simp [length_of_evaluate? hc]

theorem getElem?_of_addTo? (h : w.addTo? rows = some rows') {i : Nat} {r : Row}
    (hr : rows[i]? = some r) :
    ∃ cells j, w.evaluate? rows = some cells ∧ cells[i]? = some j ∧
      rows'[i]? = some (r.put w.label j) := by
  obtain ⟨cells, hc, rfl⟩ := addTo?_eq_some_iff.mp h
  obtain ⟨hi, -⟩ := List.getElem?_eq_some_iff.mp hr
  have hj : i < cells.length := by rwa [length_of_evaluate? hc]
  have hz : (rows.zip cells)[i]? = some (r, cells[i]) :=
    List.getElem?_zip_eq_some.mpr ⟨hr, List.getElem?_eq_getElem hj⟩
  refine ⟨cells, cells[i], hc, List.getElem?_eq_getElem hj, ?_⟩
  rw [List.getElem?_map, hz, Option.map_some]

/-- A window is not affected by a column that it does not read. -/
theorem evaluate?_of_addTo? (h : w.addTo? rows = some rows') (hl : w.label ∉ v.columnsRead) :
    v.evaluate? rows' = v.evaluate? rows := by
  obtain ⟨cells, hc, rfl⟩ := addTo?_eq_some_iff.mp h
  conv_rhs => rw [← zip_evaluate? hc]
  apply evaluate?_congr
  rintro ⟨r, j⟩ - c hcr
  rw [Row.get?_put, if_neg (ne_of_mem_of_not_mem hcr hl).symm]

theorem addAll?_cons (w : WindowField) (windows : List WindowField) (rows : List Row) :
    addAll? (w :: windows) rows = (w.addTo? rows).bind (addAll? windows) :=
  List.foldlM_cons

theorem length_of_addAll? {windows : List WindowField} (h : addAll? windows rows = some rows') :
    rows'.length = rows.length := by
  induction windows generalizing rows with
  | nil =>
      obtain rfl : rows = rows' := Option.some.inj h
      rfl
  | cons w windows ih =>
      rw [addAll?_cons] at h
      obtain ⟨next, hw, h⟩ := Option.bind_eq_some_iff.mp h
      rw [ih h, length_of_addTo? hw]

/-- Of windows that read none of their own columns, each is evaluated on the rows as they were. -/
theorem addAll?_eq_none_iff {windows : List WindowField}
    (hr : ∀ w ∈ windows, ∀ v ∈ windows, w.label ∉ v.columnsRead) :
    addAll? windows rows = none ↔ ∃ w ∈ windows, w.evaluate? rows = none := by
  induction windows generalizing rows with
  | nil => simp [addAll?]
  | cons w windows ih =>
      have hrest := fun v hv u hu => hr v (List.mem_cons_of_mem w hv) u (List.mem_cons_of_mem w hu)
      rw [addAll?_cons]
      simp only [List.mem_cons, exists_eq_or_imp]
      cases hw : w.addTo? rows with
      | none => simp [addTo?_eq_none_iff.mp hw]
      | some next =>
          have hsome : w.evaluate? rows ≠ none := by simp [← addTo?_eq_none_iff, hw]
          rw [Option.bind_some, ih hrest, or_iff_right hsome]
          refine exists_congr fun v => and_congr_right fun hv => ?_
          rw [evaluate?_of_addTo? hw (hr w List.mem_cons_self v (List.mem_cons_of_mem w hv))]

theorem getElem?_of_addAll? {windows : List WindowField} (hn : (windows.map label).Nodup)
    (hr : ∀ w ∈ windows, ∀ v ∈ windows, w.label ∉ v.columnsRead)
    (h : addAll? windows rows = some rows') {i : Nat} {r : Row} (hi : rows[i]? = some r) :
    ∃ r', rows'[i]? = some r' ∧ (∀ c ∉ windows.map label, r'.get? c = r.get? c) ∧
      ∀ w ∈ windows, ∃ cells, w.evaluate? rows = some cells ∧ r'.get? w.label = cells[i]? := by
  induction windows generalizing rows r with
  | nil =>
      obtain rfl : rows = rows' := Option.some.inj h
      exact ⟨r, hi, fun _ _ => rfl, by simp⟩
  | cons w windows ih =>
      obtain ⟨hw, hn⟩ := List.nodup_cons.mp hn
      rw [addAll?_cons] at h
      obtain ⟨next, hadd, h⟩ := Option.bind_eq_some_iff.mp h
      obtain ⟨cells, j, hc, hj, hnext⟩ := getElem?_of_addTo? hadd hi
      obtain ⟨r', hr', hother, hlabel⟩ := ih hn
        (fun v hv u hu => hr v (List.mem_cons_of_mem w hv) u (List.mem_cons_of_mem w hu)) h hnext
      refine ⟨r', hr', ?_, ?_⟩
      · intro c hc
        obtain ⟨hcw, hc⟩ : ¬c = w.label ∧ c ∉ windows.map label := by
          simpa only [List.map_cons, List.mem_cons, not_or] using hc
        rw [hother c hc, Row.get?_put, if_neg (Ne.symm hcw)]
      · intro v hv
        rcases List.mem_cons.mp hv with rfl | hv
        · exact ⟨cells, hc, by rw [hother _ hw, Row.get?_put, if_pos rfl, hj]⟩
        · obtain ⟨own, hown, hcell⟩ := hlabel v hv
          rw [evaluate?_of_addTo? hadd (hr w List.mem_cons_self v (List.mem_cons_of_mem w hv))]
            at hown
          exact ⟨own, hown, hcell⟩

end Added

section Alone

variable {key : String}

/-- The members of a partition in the window's order, with their places among themselves too. -/
def numberedMembers? (w : WindowField) (rows : List Row) (key : String) :
    Option (List (Placed × Nat)) :=
  Sorting.sort? (fun a b => Row.compareOn a.1.1 b.1.1 w.orderBy) placeSize
    (w.membersOf rows key).zipIdx

def alone (p : Placed × Nat) : Placed := (p.1.1, p.2)

theorem map_fst_numberedMembers? (w : WindowField) (rows : List Row) (key : String) :
    (w.numberedMembers? rows key).map (List.map Prod.fst) = w.partitionOf? rows key := by
  conv_rhs => rw [partitionOf?, ← List.zipIdx_map_fst 0 (w.membersOf rows key)]
  refine Sorting.map_sort? ?_ placeSize _
  exact fun _ _ => rfl

theorem filter_filter_key (w : WindowField) (rows : List Row) (key : String) :
    ((rows.filter fun r => w.partitionKey r = key).filter fun r => w.partitionKey r = key) =
      rows.filter fun r => w.partitionKey r = key := by
  rw [List.filter_filter]
  simp

theorem membersOf_alone (w : WindowField) (rows : List Row) (key : String) :
    w.membersOf (rows.filter fun r => w.partitionKey r = key) key =
      (w.membersOf rows key).zipIdx.map alone := by
  have hall : ∀ p ∈ (rows.filter fun r => w.partitionKey r = key).zipIdx,
      decide (w.partitionKey p.1 = key) = true := by
    rintro ⟨r, i⟩ hr
    exact (List.mem_filter.mp (List.fst_mem_of_mem_zipIdx hr)).2
  rw [membersOf, List.filter_eq_self.mpr hall, ← map_fst_membersOf, List.zipIdx_map]
  rfl

theorem map_alone_numberedMembers? (w : WindowField) (rows : List Row) (key : String) :
    (w.numberedMembers? rows key).map (List.map alone) =
      w.partitionOf? (rows.filter fun r => w.partitionKey r = key) key := by
  rw [partitionOf?, membersOf_alone]
  refine Sorting.map_sort? ?_ placeSize _
  exact fun _ _ => rfl

theorem evaluate?_filter_eq_none_iff :
    w.evaluate? (rows.filter fun r => w.partitionKey r = key) = none ↔ w.BreaksOffAt rows key := by
  rw [evaluate?_eq_none_iff]
  constructor
  · rintro ⟨other, h⟩
    by_cases ho : other = key
    · rw [ho, BreaksOffAt, filter_filter_key] at h
      exact h
    · have hnil : ((rows.filter fun r => w.partitionKey r = key).filter
          fun r => w.partitionKey r = other) = [] := by
        simp only [List.filter_filter, List.filter_eq_nil_iff, Bool.and_eq_true, decide_eq_true_eq]
        exact fun r _ hk => ho (hk.1.symm.trans hk.2)
      simp [BreaksOffAt, hnil, Sorting.sort?, Sorting.insertionLength] at h
  · intro h
    refine ⟨key, ?_⟩
    rw [BreaksOffAt, filter_filter_key]
    exact h

/-- A member has the cell that it has among the rows of its partition alone. -/
theorem getElem?_filter {own : List Json} (h : w.evaluate? rows = some cells)
    (ho : w.evaluate? (rows.filter fun r => w.partitionKey r = key) = some own) {pos : Nat}
    {p : Placed} (hp : (w.membersOf rows key)[pos]? = some p) : own[pos]? = cells[p.2]? := by
  obtain ⟨hr, hk⟩ := mem_membersOf.mp (List.mem_of_getElem? hp)
  have hmem : p.1 ∈ rows.filter fun r => w.partitionKey r = key :=
    List.mem_filter.mpr ⟨List.mem_of_getElem? hr, decide_eq_true hk⟩
  have hnumbered : Std.OrientedCmp fun a b : Placed × Nat =>
      Row.compareOn a.1.1 b.1.1 w.orderBy := ⟨Row.compareOn_swap _ _ w.orderBy⟩
  obtain ⟨sorted, front, hs, hf, hcells⟩ := exists_partition h ⟨p.1, List.mem_of_getElem? hr, hk⟩
  obtain ⟨sorted', front', hs', hf', hown⟩ := exists_partition ho ⟨p.1, hmem, hk⟩
  rw [← map_fst_numberedMembers?] at hs
  rw [← map_alone_numberedMembers?] at hs'
  obtain ⟨numbered, hn, rfl⟩ := Option.map_eq_some_iff.mp hs
  rw [hn] at hs'
  obtain rfl := Option.some.inj hs'
  have hrows : (numbered.map Prod.fst).map Prod.fst = (numbered.map alone).map Prod.fst := by
    rw [List.map_map, List.map_map]
    rfl
  rw [hrows, hf'] at hf
  obtain rfl := Option.some.inj hf
  have hx : (p, pos) ∈ numbered :=
    (Sorting.sort?_perm hn).mem_iff.mpr (List.mk_mem_zipIdx_iff_getElem?.mpr hp)
  obtain ⟨n, hn⟩ := List.getElem?_of_mem hx
  rw [hcells n p (by rw [List.getElem?_map, hn, Option.map_some])]
  exact hown n (p.1, pos) (by rw [List.getElem?_map, hn, Option.map_some, alone])

theorem zip_eq_zipIdx_map (h : cells.length = rows.length) :
    rows.zip cells = rows.zipIdx.map fun p => (p.1, (cells[p.2]?).getD .null) := by
  refine List.ext_getElem (by simp [h]) fun i hi _ => ?_
  have hl : i < cells.length := List.lt_length_right_of_zip hi
  simp [List.getElem?_eq_getElem hl]

/-- The rows of one key get the cells that they get without any others. -/
theorem evaluate?_filter (h : w.evaluate? rows = some cells) (key : String) :
    w.evaluate? (rows.filter fun r => w.partitionKey r = key) =
      some (((rows.zip cells).filter fun p => w.partitionKey p.1 = key).map Prod.snd) := by
  have hsome : w.evaluate? (rows.filter fun r => w.partitionKey r = key) ≠ none := by
    rw [ne_eq, evaluate?_filter_eq_none_iff]
    intro hb
    rw [evaluate?_eq_none_iff.mpr ⟨key, hb⟩] at h
    cases h
  obtain ⟨own, ho⟩ := Option.ne_none_iff_exists'.mp hsome
  have hlength := length_of_evaluate? h
  have hcells : ((rows.zip cells).filter fun p => w.partitionKey p.1 = key).map Prod.snd =
      (w.membersOf rows key).map fun p => (cells[p.2]?).getD .null := by
    rw [zip_eq_zipIdx_map hlength, List.filter_map, List.map_map]
    rfl
  rw [ho, hcells, Option.some_inj]
  apply List.ext_getElem?
  intro pos
  rw [List.getElem?_map]
  cases hp : (w.membersOf rows key)[pos]? with
  | none =>
      rw [Option.map_none, List.getElem?_eq_none_iff, length_of_evaluate? ho, ← map_fst_membersOf,
        List.length_map]
      exact List.getElem?_eq_none_iff.mp hp
  | some p =>
      obtain ⟨hr, -⟩ := mem_membersOf.mp (List.mem_of_getElem? hp)
      obtain ⟨hi, -⟩ := List.getElem?_eq_some_iff.mp hr
      rw [getElem?_filter h ho hp, Option.map_some,
        List.getElem?_eq_getElem (by rwa [hlength]), Option.getD_some]

end Alone

theorem mem_columnsRead_iff {c : String} :
    c ∈ w.columnsRead ↔ (∃ field, w.field = some field ∧ outputName field = c) ∨
      (∃ field ∈ w.partitionBy, outputName field = c) ∨ ∃ t ∈ w.orderBy, outputName t.field = c := by
  simp [columnsRead, sourceColumn, partitionColumns]

end WindowField

namespace Query

variable {q : Query} {s : Scope}

theorem columnsRead_subset (hc : q.checkIn s = .ok ()) {w : WindowField} (hw : w ∈ q.windows) :
    w.columnsRead ⊆ q.baseColumns := by
  obtain ⟨-, -, -, -, -, -, hwindows, -⟩ := checkIn_eq_ok_iff.mp hc
  obtain ⟨hfield, -, hpartition, horder⟩ := WindowField.check_eq_ok_iff.mp (hwindows w hw)
  intro c hcr
  rcases WindowField.mem_columnsRead_iff.mp hcr with ⟨f, hf, rfl⟩ | ⟨f, hf, rfl⟩ | ⟨t, ht, rfl⟩
  · exact hfield f hf
  · exact hpartition f hf
  · exact horder t ht

theorem nodup_labels (hc : q.checkIn s = .ok ()) :
    (q.windows.map WindowField.label).Nodup ∧
      ∀ c ∈ q.baseColumns, c ∉ q.windows.map WindowField.label := by
  obtain ⟨-, -, -, -, hn, -⟩ := checkIn_eq_ok_iff.mp hc
  obtain ⟨-, hlabels, hdisjoint⟩ := List.nodup_append'.mp hn
  exact ⟨hlabels, fun c hb hl => hdisjoint hb hl⟩

end Query

/-- In whichever order they are added, the windows of an accepted query are evaluated on the base
rows, and there are no rows exactly if one of them breaks off. Else they keep the rows, their places and
their base columns, and each window's column holds its cells. The rows of one partition get the same
cells without the rows of the others, and a window breaks off exactly if a partition does alone. -/
theorem windows_independent {q : Query} {s : Scope} (hc : q.checkIn s = .ok ()) (rows : List Row) :
    (∀ windows : List WindowField, windows.Perm q.windows →
      (WindowField.addAll? windows rows = none ↔ ∃ w ∈ q.windows, w.evaluate? rows = none) ∧
        ∀ rows', WindowField.addAll? windows rows = some rows' →
          rows'.length = rows.length ∧
            ∀ (i : Nat) (r : Row), rows[i]? = some r →
              ∃ r', rows'[i]? = some r' ∧ (∀ c ∈ q.baseColumns, r'.get? c = r.get? c) ∧
                ∀ w ∈ q.windows, ∃ cells, w.evaluate? rows = some cells ∧
                  r'.get? w.label = cells[i]?) ∧
      ∀ w ∈ q.windows,
        (w.evaluate? rows = none ↔ ∃ key, w.BreaksOffAt rows key) ∧
          ∀ key : String,
            (w.evaluate? (rows.filter fun r => w.partitionKey r = key) = none ↔
              w.BreaksOffAt rows key) ∧
              ∀ cells, w.evaluate? rows = some cells →
                w.evaluate? (rows.filter fun r => w.partitionKey r = key) =
                  some (((rows.zip cells).filter fun p => w.partitionKey p.1 = key).map Prod.snd) := by
  refine ⟨fun windows hp => ?_, fun w _ => ⟨WindowField.evaluate?_eq_none_iff, fun key =>
    ⟨WindowField.evaluate?_filter_eq_none_iff, fun cells h => WindowField.evaluate?_filter h key⟩⟩⟩
  obtain ⟨hlabels, hbase⟩ := Query.nodup_labels hc
  have hmem {c : String} : c ∈ windows.map WindowField.label ↔ c ∈ q.windows.map WindowField.label :=
    (hp.map WindowField.label).mem_iff
  have hread : ∀ w ∈ windows, ∀ v ∈ windows, w.label ∉ v.columnsRead := by
    intro w hw v hv hl
    refine hbase _ (Query.columnsRead_subset hc (hp.mem_iff.mp hv) hl) ?_
    exact List.mem_map_of_mem (hp.mem_iff.mp hw)
  have hn : (windows.map WindowField.label).Nodup := (hp.map WindowField.label).nodup_iff.mpr hlabels
  refine ⟨?_, fun rows' h => ⟨WindowField.length_of_addAll? h, fun i r hr => ?_⟩⟩
  · rw [WindowField.addAll?_eq_none_iff hread]
    simp only [hp.mem_iff]
  · obtain ⟨r', hr', hother, hown⟩ := WindowField.getElem?_of_addAll? hn hread h hr
    exact ⟨r', hr', fun c hcb => hother c (mt hmem.mp (hbase c hcb)),
      fun w hw => hown w (hp.mem_iff.mpr hw)⟩

def placeInRegion : WindowField :=
  ⟨.rowNumber, none, "place", ["region"], [⟨"amount", .asc⟩], none, none⟩

def amountBefore : WindowField := ⟨.lag, some "amount", "before", [], [], none, none⟩

def placedAmounts : Query where
  join := []
  select := [.column "region", .column "amount", .window placeInRegion, .window amountBefore]
  groupBy := []
  filter := []
  having := []
  orderBy := []
  limit := none

theorem placedAmounts_independent :
    let sales : Table := ⟨"sales", [⟨"region", "TEXT", true⟩, ⟨"amount", "REAL", true⟩]⟩
    let sale (region : String) (amount : Int) : Row :=
      ⟨[("region", .str region), ("amount", .int amount)]⟩
    let rows := [sale "eu" 3, sale "us" 5, sale "eu" 1]
    placedAmounts.checkIn ⟨sales, []⟩ = .ok () ∧
      ∀ windows ∈ [[placeInRegion, amountBefore], [amountBefore, placeInRegion]],
        ∃ rows' r, WindowField.addAll? windows rows = some rows' ∧ rows'[2]? = some r ∧
          r.get? "amount" = some (.int 1) ∧ r.get? "place" = some (.int 1) ∧
            r.get? "before" = some (.int 5) := by
  intro sales sale rows
  have hc : placedAmounts.checkIn ⟨sales, []⟩ = .ok () := rfl
  refine ⟨hc, fun windows hw => ?_⟩
  have hp : windows.Perm placedAmounts.windows := by
    rcases List.mem_pair.mp hw with rfl | rfl
    · exact .refl _
    · exact List.reverse_perm [placeInRegion, amountBefore]
  obtain ⟨hnone, hsome⟩ := (windows_independent hc rows).1 windows hp
  obtain ⟨rows', hr'⟩ : ∃ rows', WindowField.addAll? windows rows = some rows' := by
    refine Option.ne_none_iff_exists'.mp fun hn => ?_
    obtain ⟨w, hw, hn⟩ := hnone.mp hn
    obtain ⟨cells, hcells⟩ : ∃ cells, w.evaluate? rows = some cells := by
      refine WindowField.exists_evaluate? (.inl (by decide)) ?_
      rcases List.mem_pair.mp hw with rfl | rfl <;> simp [placeInRegion, amountBefore]
    rw [hn] at hcells
    cases hcells
  obtain ⟨-, hrows⟩ := hsome rows' hr'
  obtain ⟨r, hr, hbase, hown⟩ := hrows 2 (sale "eu" 1) rfl
  obtain ⟨places, hplaces, hplace⟩ := hown placeInRegion List.mem_cons_self
  obtain ⟨befores, hbefores, hbefore⟩ := hown amountBefore (List.mem_cons_of_mem _ List.mem_cons_self)
  have hregion : placeInRegion.partitionOf? rows (placeInRegion.partitionKey (sale "eu" 1)) =
      some [(sale "eu" 1, 2), (sale "eu" 3, 0)] := rfl
  have hall : amountBefore.partitionOf? rows (amountBefore.partitionKey (sale "eu" 1)) =
      some [(sale "eu" 3, 0), (sale "us" 5, 1), (sale "eu" 1, 2)] := rfl
  have hfirst : places[2]? = some (.int 1) :=
    WindowField.getElem?_of_evaluate? hplaces hregion rfl (List.getElem?_cons_zero)
  have hlast : befores[2]? = some (.int 5) :=
    WindowField.getElem?_of_evaluate? hbefores hall rfl
      (show [(sale "eu" 3, 0), (sale "us" 5, 1), (sale "eu" 1, 2)][2]? = some (sale "eu" 1, 2) from rfl)
  exact ⟨rows', r, hr', hr, hbase "amount" (by decide), hplace.trans hfirst, hbefore.trans hlast⟩

def farAhead : WindowField :=
  ⟨.lead, some "mid", "next", [], [], some (UInt64.size - 1), none⟩

def mediansAhead : Query where
  join := []
  select := [.column "region", .aggregate ⟨"amount", .median, "mid", none⟩, .window farAhead]
  groupBy := [.plain "region"]
  filter := []
  having := []
  orderBy := []
  limit := none

/-- The place 2^64 - 1 behind the second row is no word, and both rows are lost. -/
theorem mediansAhead_lost :
    let sales : Table := ⟨"sales", [⟨"region", "TEXT", true⟩, ⟨"amount", "REAL", true⟩]⟩
    let median (region : String) (amount : Int) : Row :=
      ⟨[("region", .str region), ("mid", .int amount)]⟩
    mediansAhead.checkIn ⟨sales, []⟩ = .ok () ∧ mediansAhead.windows = [farAhead] ∧
      WindowField.addAll? mediansAhead.windows [median "eu" 1, median "us" 2] = none := by
  intro sales median
  have hlost : farAhead.evaluate? [median "eu" 1, median "us" 2] = none :=
    WindowField.evaluate?_eq_none_iff.mpr ⟨farAhead.partitionKey (median "eu" 1),
      .inr ⟨rfl, List.cons_ne_nil _ _, show UInt64.size < 2 + (UInt64.size - 1) by decide⟩⟩
  refine ⟨rfl, rfl, ?_⟩
  change WindowField.addAll? [farAhead] _ = none
  rw [WindowField.addAll?_cons, WindowField.addTo?_eq_none_iff.mpr hlost, Option.bind_none]

end TableQuery
