import TableQuery.Proofs.Query.OutputColumns
import TableQuery.Proofs.Rows.RowOrder
import TableQuery.Proofs.Validation.Acceptance

namespace TableQuery

theorem outputName_eq_self_iff {field : String} :
    outputName field = field ↔ '.' ∉ field.toList := by
  rcases FieldRef.bare_or_qualified field with hf | ⟨table, column, ht, rfl⟩
  · rw [outputName, FieldRef.ofField_bare hf]
    exact iff_of_true rfl hf
  · have hne := outputName_ne (isQualified_iff.mpr ⟨table, column, ht, rfl⟩)
    exact iff_of_false hne (by simp)

namespace OrderTerm

/-- The term compares rows by their cells in the column. -/
def Reads (t : OrderTerm) (column : String) : Prop :=
  ∀ a b : Row,
    a.compareOn b [t] = Cell.compareDirected (a.get? column) (b.get? column) t.direction

theorem reads_iff {t : OrderTerm} {column : String} :
    t.Reads column ↔ outputName t.field = column := by
  constructor
  · intro h
    by_contra hne
    -- Rows that have a cell in the one column only.
    have hget (n : Int) : (⟨[(column, .int n)]⟩ : Row).get? (outputName t.field) = none := by
      simp [Row.get?, Ne.symm hne]
    have hself (n : Int) : (⟨[(column, .int n)]⟩ : Row).get? column = some (.int n) := by
      simp [Row.get?]
    have h12 := h ⟨[(column, .int 1)]⟩ ⟨[(column, .int 2)]⟩
    rw [Row.compareOn_singleton, hget, hget, hself, hself] at h12
    cases hd : t.direction <;> rw [hd] at h12 <;> exact absurd h12 (by decide)
  · rintro rfl a b
    exact Row.compareOn_singleton a b t

end OrderTerm

theorem Row.compareOn_concat (a b : Row) (orderBy : List OrderTerm) (t : OrderTerm) :
    a.compareOn b (orderBy ++ [t]) = (a.compareOn b orderBy).then (a.compareOn b [t]) := by
  induction orderBy with
  | nil => rfl
  | cons other orderBy ih => rw [List.cons_append, compareOn, compareOn, ih, Ordering.then_assoc]

namespace WindowField

def partitionedBy (w : WindowField) (field : String) : WindowField :=
  { w with partitionBy := w.partitionBy ++ [field] }

def orderedBy (w : WindowField) (t : OrderTerm) : WindowField :=
  { w with orderBy := w.orderBy ++ [t] }

variable {columns : List String} {w : WindowField}

theorem check_partitionedBy_iff (h : w.check columns = .ok ()) (field : String) :
    (w.partitionedBy field).check columns = .ok () ↔ outputName field ∈ columns := by
  rw [check_eq_ok_iff] at h ⊢
  obtain ⟨hfield, hrequired, hpartition, horder⟩ := h
  simp only [partitionedBy, List.forall_mem_append, List.forall_mem_singleton]
  tauto

theorem check_orderedBy_iff (h : w.check columns = .ok ()) (t : OrderTerm) :
    (w.orderedBy t).check columns = .ok () ↔ outputName t.field ∈ columns := by
  rw [check_eq_ok_iff] at h ⊢
  obtain ⟨hfield, hrequired, hpartition, horder⟩ := h
  simp only [orderedBy, List.forall_mem_append, List.forall_mem_singleton]
  tauto

end WindowField

namespace Query

def orderedBy (q : Query) (t : OrderTerm) : Query := { q with orderBy := q.orderBy ++ [t] }

def keeping (q : Query) (f : Filter) : Query := { q with having := q.having ++ [f] }

def selecting (q : Query) (select : List SelectField) : Query := { q with select := select }

section Window

variable {q : Query} {front behind : List SelectField} {w : WindowField}
  (hs : q.select = front ++ .window w :: behind) (w' : WindowField)

include hs

theorem baseColumns_selecting :
    (q.selecting (front ++ .window w' :: behind)).baseColumns = q.baseColumns := by
  simp [selecting, baseColumns, implicitBuckets, bucketedFields, baseSelect, hs,
    SelectField.selects, SelectField.isWindow]

theorem outputColumns_selecting (hlabel : w'.label = w.label) :
    (q.selecting (front ++ .window w' :: behind)).outputColumns = q.outputColumns := by
  rw [outputColumns, outputColumns, baseColumns_selecting hs w']
  simp [selecting, windows, hs, SelectField.window?, hlabel]

theorem mem_windows_selecting {v : WindowField}
    (hv : v ∈ (q.selecting (front ++ .window w' :: behind)).windows) : v = w' ∨ v ∈ q.windows := by
  simp only [windows, selecting, hs, List.filterMap_append, List.filterMap_cons,
    SelectField.window?, List.mem_append, List.mem_cons] at hv ⊢
  tauto

omit hs in
theorem mem_windows_self : w ∈ (q.selecting (front ++ .window w :: behind)).windows := by
  simp [windows, selecting, SelectField.window?]

omit hs in
theorem ordersOutputs_selecting :
    (q.selecting (front ++ .window w :: behind)).ordersOutputs = true := by
  have hm : w ∈ (q.selecting (front ++ .window w :: behind)).windows := mem_windows_self
  have hw : (q.selecting (front ++ .window w :: behind)).hasWindows = true := by
    simpa [hasWindows] using List.ne_nil_of_mem hm
  simp [ordersOutputs, hw]

end Window

section Accepted

variable {q : Query} {s : Scope} (hc : q.checkIn s = .ok ())

include hc

theorem checkIn_orderedBy_iff (ho : q.ordersOutputs = true) (t : OrderTerm) :
    (q.orderedBy t).checkIn s = .ok () ↔ outputName t.field ∈ q.outputColumns := by
  have hterm : (q.orderedBy t).checkOrder s t = .ok () ↔ outputName t.field ∈ q.outputColumns :=
    checkOrder_eq_ok_iff (q := q.orderedBy t) ho
  rw [← hterm]
  rw [checkIn_eq_ok_iff] at hc ⊢
  obtain ⟨hne, hselect, hgroup, hfilter, hnodup, hhaving, hwindows, horder⟩ := hc
  constructor
  · rintro ⟨-, -, -, -, -, -, -, h⟩
    exact h t (List.mem_append_right _ (List.mem_singleton_self t))
  · intro h
    refine ⟨hne, hselect, hgroup, hfilter, hnodup, hhaving, hwindows, ?_⟩
    exact List.forall_mem_append.mpr ⟨horder, List.forall_mem_singleton.mpr h⟩

theorem checkIn_keeping_iff (f : Filter) :
    (q.keeping f).checkIn s = .ok () ↔ outputName f.field ∈ q.baseColumns := by
  rw [checkIn_eq_ok_iff] at hc ⊢
  obtain ⟨hne, hselect, hgroup, hfilter, hnodup, hhaving, hwindows, horder⟩ := hc
  constructor
  · rintro ⟨-, -, -, -, -, h, -, -⟩
    exact h f (List.mem_append_right _ (List.mem_singleton_self f))
  · intro h
    refine ⟨hne, hselect, hgroup, hfilter, hnodup, ?_, hwindows, horder⟩
    exact List.forall_mem_append.mpr ⟨hhaving, List.forall_mem_singleton.mpr h⟩

/-- A window in the place of another one of its name is all that is checked anew. -/
theorem checkIn_selecting_iff {front behind : List SelectField} {w : WindowField}
    (hs : q.select = front ++ .window w :: behind) (w' : WindowField)
    (hlabel : w'.label = w.label) :
    (q.selecting (front ++ .window w' :: behind)).checkIn s = .ok () ↔
      w'.check q.baseColumns = .ok () := by
  have hself : q.selecting (front ++ .window w :: behind) = q := by rw [← hs, selecting]
  have ho : q.ordersOutputs = true := hself ▸ ordersOutputs_selecting
  have hbase := baseColumns_selecting hs w'
  rw [checkIn_eq_ok_iff] at hc ⊢
  obtain ⟨hne, hselect, hgroup, hfilter, hnodup, hhaving, hwindows, horder⟩ := hc
  constructor
  · rintro ⟨-, -, -, -, -, -, h, -⟩
    exact hbase ▸ h w' mem_windows_self
  · intro h
    refine ⟨by simp [selecting], ?_, hgroup, hfilter, ?_, ?_, ?_, ?_⟩
    · intro f hf
      rcases List.mem_append.mp hf with hf | hf
      · exact hselect f (hs ▸ List.mem_append_left _ hf)
      · rcases List.mem_cons.mp hf with rfl | hf
        · rfl
        · exact hselect f (by simp [hs, hf])
    · exact (outputColumns_selecting hs w' hlabel).symm ▸ hnodup
    · exact hbase.symm ▸ hhaving
    · intro v hv
      rw [hbase]
      rcases mem_windows_selecting hs w' hv with rfl | hv
      · exact h
      · exact hwindows v hv
    · intro t ht
      rw [checkOrder_eq_ok_iff ordersOutputs_selecting, outputColumns_selecting hs w' hlabel]
      exact (checkOrder_eq_ok_iff ho).mp (horder t ht)

theorem check_of_select {front behind : List SelectField} {w : WindowField}
    (hs : q.select = front ++ .window w :: behind) : w.check q.baseColumns = .ok () := by
  obtain ⟨-, -, -, -, -, -, hwindows, -⟩ := checkIn_eq_ok_iff.mp hc
  exact hwindows w (by simp [windows, hs, SelectField.window?])

end Accepted

end Query

open Query in
/-- In a query that passes the check, a column of the result can be ordered by under its own name,
and is then what the rows are ordered by, exactly if the name has no point. As the field of a HAVING
filter, or of a window's partitions or order, the name of a column before the windows passes the
check exactly if what it is respelled to is such a column too; without a point that is the name
itself. -/
theorem own_names_refer_iff {q : Query} {s : Scope} (hc : q.checkIn s = .ok ())
    (ho : q.ordersOutputs = true) :
    (∀ c ∈ q.outputColumns, ∀ d : Direction,
      (q.orderedBy ⟨c, d⟩).checkIn s = .ok () ∧ OrderTerm.Reads ⟨c, d⟩ c ↔ '.' ∉ c.toList) ∧
      (∀ (t : OrderTerm) (a b : Row), a.compareOn b (q.orderedBy t).orderBy =
        (a.compareOn b q.orderBy).then (a.compareOn b [t])) ∧
      (∀ c ∈ q.baseColumns, ∀ op value,
        (q.keeping ⟨c, op, value⟩).checkIn s = .ok () ↔ outputName c ∈ q.baseColumns) ∧
      (∀ c ∈ q.baseColumns, ∀ front w behind, q.select = front ++ .window w :: behind →
        ((q.selecting (front ++ .window (w.partitionedBy c) :: behind)).checkIn s = .ok () ↔
            outputName c ∈ q.baseColumns) ∧
          ∀ d : Direction,
            (q.selecting (front ++ .window (w.orderedBy ⟨c, d⟩) :: behind)).checkIn s = .ok () ↔
              outputName c ∈ q.baseColumns) ∧
      ∀ c, outputName c = c ↔ '.' ∉ c.toList := by
  refine ⟨fun c hm d => ?_, fun t a b => Row.compareOn_concat a b q.orderBy t,
    fun c _ op value => checkIn_keeping_iff hc _, fun c _ front w behind hs => ?_,
    fun c => outputName_eq_self_iff⟩
  · rw [checkIn_orderedBy_iff hc ho, OrderTerm.reads_iff, ← outputName_eq_self_iff]
    refine and_iff_right_of_imp fun h => ?_
    exact h.symm ▸ hm
  · have hw := check_of_select hc hs
    refine ⟨?_, fun d => ?_⟩
    · exact (checkIn_selecting_iff hc hs (w.partitionedBy c) rfl).trans
        (WindowField.check_partitionedBy_iff hw c)
    · exact (checkIn_selecting_iff hc hs (w.orderedBy ⟨c, d⟩) rfl).trans
        (WindowField.check_orderedBy_iff hw ⟨c, d⟩)

def rankedTotals (label : String) : Query where
  join := []
  select := [.column "region", .aggregate ⟨"amount", .sum, label, none⟩,
    .window ⟨.rank, none, "rank", [], [⟨"region", .asc⟩], none, none⟩]
  groupBy := [.plain "region"]
  filter := []
  having := []
  orderBy := []
  limit := none

def totalsScope : Scope :=
  ⟨⟨"orders", [⟨"region", "TEXT", true⟩, ⟨"amount", "REAL", true⟩]⟩, []⟩

theorem total_refers :
    (rankedTotals "total").checkIn totalsScope = .ok () ∧
      (rankedTotals "total").ordersOutputs = true ∧
      ((rankedTotals "total").orderedBy ⟨"total", .desc⟩).checkIn totalsScope = .ok () ∧
      ((rankedTotals "total").keeping ⟨"total", .isNotNull, none⟩).checkIn totalsScope =
        .ok () := by
  have hc : (rankedTotals "total").checkIn totalsScope = .ok () := rfl
  have ho : (rankedTotals "total").ordersOutputs = true := rfl
  have hpoint : '.' ∉ "total".toList := by decide
  have hbase : "total" ∈ (rankedTotals "total").baseColumns := by decide
  obtain ⟨horder, -, hhaving, -, hself⟩ := own_names_refer_iff hc ho
  refine ⟨hc, ho, ((horder "total" (by decide) .desc).mpr hpoint).1, ?_⟩
  exact (hhaving "total" hbase .isNotNull none).mpr ((hself "total").mpr hpoint ▸ hbase)

/-- The column is unknown under its own name, which is suggested in its place. -/
theorem pointed_total_unknown :
    (rankedTotals "sum.eu").checkIn totalsScope = .ok () ∧
      (rankedTotals "sum.eu").ordersOutputs = true ∧
      "sum.eu" ∈ (rankedTotals "sum.eu").outputColumns ∧
      "sum.eu" ∈ (rankedTotals "sum.eu").baseColumns ∧
      ((rankedTotals "sum.eu").orderedBy ⟨"sum.eu", .asc⟩).checkIn totalsScope =
        .error (.unknownOutput "sum.eu" .orderBy (some "sum.eu")) ∧
      ((rankedTotals "sum.eu").keeping ⟨"sum.eu", .isNotNull, none⟩).checkIn totalsScope =
        .error (.unknownOutput "sum.eu" .having (some "sum.eu")) :=
  ⟨rfl, rfl, by decide, by decide, rfl, rfl⟩

end TableQuery
