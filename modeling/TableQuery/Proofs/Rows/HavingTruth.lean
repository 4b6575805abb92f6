import TableQuery.Proofs.Sql.Predicates
import TableQuery.Rows.Having

namespace TableQuery

open Sql

theorem Cell.isMissing_eq (cell : Option Json) : isMissing cell = (cell.getD .null).isNull := by
  cases cell <;> rfl

theorem Cell.text?_eq_none_iff {j : Json} : text? j = none ↔ j.isNull = true := by
  cases j <;> simp [text?, Json.isNull]

theorem Cell.not_equal_of_isNull {j item : Json} (hj : j.isNull = false) (hi : item.isNull = true) :
    equal j item = false := by
  cases item with
  | null =>
      have ht : text? j ≠ none := by simp [text?_eq_none_iff, hj]
      have hn : number? .null = none := rfl
      have hnull : text? .null = none := rfl
      simp [equal, hn, hnull, ht]
  | _ => cases hi

namespace Filter

section Truth

variable (decided : Bool)

/-- A comparison with a null side is unknown. Present values that have no order as numbers differ
if `decided`, and otherwise their comparison is unknown as well. -/
def comparison (numeric : Bool) (test : Ordering → Bool) (cell operand : Json) : Truth :=
  if cell.isNull || operand.isNull then none
  else
    match order? numeric cell operand with
    | some o => some (test o)
    | none => if decided then some false else none

def itemEquality (f : Filter) (cell item : Json) : Truth :=
  if f.isNumeric then comparison decided true Relation.eq.test cell item
  else if cell.isNull || item.isNull then none
  else some (Cell.equal cell item)

def truthOf (f : Filter) (cell : Json) : Predicate → Truth
  | .constant b => some b
  | .isNull => some cell.isNull
  | .isNotNull => some !cell.isNull
  | .compared relation operand => comparison decided f.isNumeric relation.test cell operand
  | .isIn items => .any (items.map (f.itemEquality decided cell))
  | .notIn items => (Truth.any (items.map (f.itemEquality decided cell))).not
  | .between low high =>
    (comparison decided f.isNumeric Relation.gte.test cell low).and
      (comparison decided f.isNumeric Relation.lte.test cell high)

/-- The truth of a filter's predicate in a row, where a missing cell is null. -/
def truth (f : Filter) (r : Row) : Truth := f.truthOf decided ((f.cell r).getD .null) f.predicate

/-- The cell is present and equals no item, though it is unknown whether it equals each of them. -/
def ForgetsUnknown (f : Filter) (r : Row) : Prop :=
  f.op = .notIn ∧ ∃ cell, f.cell r = some cell ∧ cell.isNull = false ∧
    (∀ item ∈ Condition.operandItems f.value, f.itemEquality decided cell item ≠ some true) ∧
    ∃ item ∈ Condition.operandItems f.value, f.itemEquality decided cell item = none

end Truth

variable {f : Filter} {decided : Bool}

theorem comparison_eq_true_iff {numeric : Bool} {test : Ordering → Bool} {cell operand : Json} :
    comparison decided numeric test cell operand = some true ↔
      holdsOf test (order? numeric cell operand) = true := by
  unfold comparison
  cases hn : cell.isNull || operand.isNull with
  | true => simp [order?, hn, holdsOf]
  | false =>
      cases order? numeric cell operand with
      | some o => simp [holdsOf]
      | none => cases decided <;> simp [holdsOf]

theorem itemEquality_eq_true_iff {cell item : Json} (hc : cell.isNull = false) :
    f.itemEquality decided cell item = some true ↔
      (if f.isNumeric then holdsOf (· = .eq) (order? true cell item)
        else Cell.equal cell item) = true := by
  unfold itemEquality
  cases f.isNumeric with
  | true => exact comparison_eq_true_iff
  | false =>
      cases hi : item.isNull with
      | true => simp [hc, Cell.not_equal_of_isNull hc hi]
      | false => simp [hc]

theorem isMember_eq_true_iff {cell : Json} (hc : cell.isNull = false) (items : List Json) :
    isMember f cell items = true ↔ ∃ item ∈ items, f.itemEquality decided cell item = some true := by
  rw [isMember, List.any_eq_true]
  exact exists_congr fun item => and_congr_right fun _ => (itemEquality_eq_true_iff hc).symm

theorem holdsOf_bind (numeric : Bool) (test : Ordering → Bool) (cell : Option Json)
    (operand : Json) :
    holdsOf test (cell.bind fun j => order? numeric j operand) =
      holdsOf test (order? numeric (cell.getD .null) operand) := by
  cases cell with
  | some j => rfl
  | none => simp [order?, Json.isNull, holdsOf]

theorem compares_iff (relation : Relation) {ifAbsent : Predicate} {absent : Bool}
    {cell : Option Json} (ha : f.truthOf decided (cell.getD .null) ifAbsent = some absent) :
    f.compares relation.test absent cell = true ↔
      f.truthOf decided (cell.getD .null) (.ofOperand relation ifAbsent f.value) = some true := by
  have hoperand (operand : Json) :
      holdsOf relation.test (cell.bind fun j => order? f.isNumeric j operand) = true ↔
        comparison decided f.isNumeric relation.test (cell.getD .null) operand = some true := by
    rw [holdsOf_bind, comparison_eq_true_iff]
  unfold compares
  split
  · next hv => simp [hv, Predicate.ofOperand, ha]
  · next hv => simp [hv, Predicate.ofOperand, ha]
  · next operand hnull hv =>
      rw [hoperand, hv]
      cases operand with
      | null => exact absurd rfl hnull
      | _ => rfl

theorem between_iff (cell : Option Json) :
    f.between cell = true ↔
      f.truthOf decided (cell.getD .null) (.ofBounds f.value) = some true := by
  have hgte : (fun o : Ordering => o != .lt) = Relation.gte.test := by
    funext o; cases o <;> rfl
  have hlte : (fun o : Ordering => o != .gt) = Relation.lte.test := by
    funext o; cases o <;> rfl
  unfold between Predicate.ofBounds
  generalize f.value = value
  split
  · next low high =>
      rw [Bool.and_eq_true, holdsOf_bind, holdsOf_bind, hgte, hlte]
      simp only [truthOf, Truth.and_eq_true_iff, comparison_eq_true_iff]
  · simp [truthOf]

section Items

variable {items : List Json}

theorem truthOf_isIn (cell : Json) :
    f.truthOf decided cell (.ofItems .isIn (.constant false) items) =
      .any (items.map (f.itemEquality decided cell)) := by
  cases items <;> rfl

theorem truthOf_notIn (cell : Json) :
    f.truthOf decided cell (.ofItems .notIn (.constant true) items) =
      (Truth.any (items.map (f.itemEquality decided cell))).not := by
  cases items <;> rfl

theorem itemEquality_of_isNull {cell : Json} (hc : cell.isNull = true) (item : Json) :
    f.itemEquality decided cell item = none := by
  simp [itemEquality, comparison, hc]

theorem isMember_iff_any {cell : Json} (hc : cell.isNull = false) :
    isMember f cell items = true ↔
      Truth.any (items.map (f.itemEquality decided cell)) = some true := by
  rw [isMember_eq_true_iff hc, Truth.any_eq_true_iff, List.mem_map]

theorem listed_of_present {cell : Json} (hc : cell.isNull = false) (wanted : Bool) :
    f.listed wanted (some cell) = true ↔
      isMember f cell (Condition.operandItems f.value) = wanted := by
  unfold listed
  cases Condition.operandItems f.value with
  | nil => cases wanted <;> simp [isMember]
  | cons item items => simp [hc]

theorem listed_of_missing {cell : Option Json} (hc : (cell.getD .null).isNull = true)
    (wanted : Bool) :
    f.listed wanted cell = true ↔ Condition.operandItems f.value = [] ∧ wanted = false := by
  unfold listed
  cases Condition.operandItems f.value with
  | nil => simp
  | cons item items =>
      cases cell with
      | none => simp
      | some j =>
          have hj : j.isNull = true := hc
          simp [hj]

end Items

theorem listed_isIn_iff (cell : Option Json) :
    f.listed true cell = true ↔
      f.truthOf decided (cell.getD .null)
        (.ofItems .isIn (.constant false) (Condition.operandItems f.value)) = some true := by
  rw [truthOf_isIn]
  cases hc : (cell.getD .null).isNull with
  | true =>
      rw [listed_of_missing hc, Truth.any_eq_true_iff]
      simp [itemEquality_of_isNull hc]
  | false =>
      obtain _ | j := cell
      · cases hc
      · have hj : j.isNull = false := hc
        rw [listed_of_present hj, isMember_iff_any hj, Option.getD_some]

/-- The negated disjunction is true where each item is known to differ; the list test only asks
whether no item is known to be equal. -/
theorem listed_notIn_iff (cell : Option Json) :
    (f.listed false cell = true ↔
        f.truthOf decided (cell.getD .null)
          (.ofItems .notIn (.constant true) (Condition.operandItems f.value)) = some true) ↔
      ¬((cell.getD .null).isNull = false ∧
        Truth.any ((Condition.operandItems f.value).map
          (f.itemEquality decided (cell.getD .null))) = none) := by
  rw [truthOf_notIn, Truth.not_eq_true_iff]
  cases hc : (cell.getD .null).isNull with
  | true =>
      rw [listed_of_missing hc, Truth.any_eq_false_iff]
      simp [itemEquality_of_isNull hc, List.eq_nil_iff_forall_not_mem]
  | false =>
      obtain _ | j := cell
      · cases hc
      · have hj : j.isNull = false := hc
        have hmember : ¬isMember f j (Condition.operandItems f.value) = true ↔
            ¬Truth.any ((Condition.operandItems f.value).map (f.itemEquality decided j)) =
              some true := (isMember_iff_any hj).not
        rw [listed_of_present hj, ← Bool.not_eq_true, hmember, Option.getD_some]
        -- Not true on one side, false on the other: they part where the disjunction is unknown.
        rcases Truth.any ((Condition.operandItems f.value).map
          (f.itemEquality decided j)) with _ | _ | _ <;> simp

theorem forgetsUnknown_iff {r : Row} (hop : f.op = .notIn) :
    f.ForgetsUnknown decided r ↔
      ((f.cell r).getD .null).isNull = false ∧
        Truth.any ((Condition.operandItems f.value).map
          (f.itemEquality decided ((f.cell r).getD .null))) = none := by
  rw [ForgetsUnknown, Truth.any_eq_none_iff]
  cases f.cell r with
  | none => simp [Json.isNull]
  | some cell => simp [hop]

theorem itemEquality_eq_none_iff {cell item : Json} (hc : cell.isNull = false) :
    f.itemEquality true cell item = none ↔ item.isNull = true := by
  cases hi : item.isNull with
  | true => simp [itemEquality, comparison, hi]
  | false =>
      unfold itemEquality comparison
      cases f.isNumeric <;> cases order? true cell item <;> simp [hc, hi]

theorem forgetsUnknown_decided_iff {r : Row} :
    f.ForgetsUnknown true r ↔
      f.op = .notIn ∧ ∃ cell, f.cell r = some cell ∧ cell.isNull = false ∧
        isMember f cell (Condition.operandItems f.value) = false ∧
        ∃ item ∈ Condition.operandItems f.value, item.isNull = true := by
  refine and_congr_right fun _ => exists_congr fun cell => and_congr_right fun _ =>
    and_congr_right fun hc => and_congr ?_ ?_
  · have hmember : isMember f cell (Condition.operandItems f.value) = true ↔
        ∃ item ∈ Condition.operandItems f.value, f.itemEquality true cell item = some true :=
      isMember_eq_true_iff hc _
    rw [← Bool.not_eq_true, hmember]
    simp
  · simp only [itemEquality_eq_none_iff hc]

theorem holds_iff_truth_iff (r : Row) :
    (f.holds r = true ↔ f.truth decided r = some true) ↔ ¬f.ForgetsUnknown decided r := by
  have hother (hop : f.op ≠ .notIn) : ¬f.ForgetsUnknown decided r := fun h => hop h.1
  have hmissing : f.truthOf decided ((f.cell r).getD .null) .isNull =
      some (Cell.isMissing (f.cell r)) := by
    rw [Cell.isMissing_eq]
    rfl
  have hpresent : f.truthOf decided ((f.cell r).getD .null) .isNotNull =
      some !Cell.isMissing (f.cell r) := by
    rw [Cell.isMissing_eq]
    rfl
  have hfalse : f.truthOf decided ((f.cell r).getD .null) (.constant false) = some false := rfl
  unfold holds truth predicate
  cases hop : f.op with
  | eq => exact iff_of_true (compares_iff .eq hmissing) (hother (by simp [hop]))
  | notEq => exact iff_of_true (compares_iff .notEq hpresent) (hother (by simp [hop]))
  | gt => exact iff_of_true (compares_iff .gt hfalse) (hother (by simp [hop]))
  | gte => exact iff_of_true (compares_iff .gte hfalse) (hother (by simp [hop]))
  | lt => exact iff_of_true (compares_iff .lt hfalse) (hother (by simp [hop]))
  | lte => exact iff_of_true (compares_iff .lte hfalse) (hother (by simp [hop]))
  | isIn => exact iff_of_true (listed_isIn_iff _) (hother (by simp [hop]))
  | notIn =>
      rw [forgetsUnknown_iff hop]
      exact listed_notIn_iff _
  | between => exact iff_of_true (between_iff _) (hother (by simp [hop]))
  | isNull => exact iff_of_true (by simp [hmissing]) (hother (by simp [hop]))
  | isNotNull => exact iff_of_true (by simp [hpresent]) (hother (by simp [hop]))

end Filter

/-- A filter holds exactly where the predicate it is written as is true, unless a present cell
equals no item of NOT IN and it is unknown whether it equals each of them; the items that this is
unknown of are the null ones. -/
theorem having_follows_predicate_iff (f : Filter) (r : Row) (decided : Bool) :
    (∀ d e, Condition.text d ⟨e, f⟩ =
        f.predicate.text d ((Condition.subject ⟨e, f⟩).text d)) ∧
      ((f.holds r = true ↔ f.truth decided r = some true) ↔ ¬f.ForgetsUnknown decided r) ∧
      (f.ForgetsUnknown true r ↔
        f.op = .notIn ∧ ∃ cell, f.cell r = some cell ∧ cell.isNull = false ∧
          Filter.isMember f cell (Condition.operandItems f.value) = false ∧
          ∃ item ∈ Condition.operandItems f.value, item.isNull = true) :=
  ⟨fun d e => Condition.text_eq_predicate d ⟨e, f⟩, f.holds_iff_truth_iff r,
    Filter.forgetsUnknown_decided_iff⟩

/-- `us` is not `eu`, but whether it is one of `eu` and null is unknown. -/
theorem notIn_null_holds :
    let f : Filter := ⟨"region", .notIn, some (.arr [.str "eu", .null])⟩
    let r : Row := ⟨[("region", .str "us")]⟩
    f.holds r = true ∧ ∀ decided, f.truth decided r = none := by
  decide +kernel

end TableQuery
