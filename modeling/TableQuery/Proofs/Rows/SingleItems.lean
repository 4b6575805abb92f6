import TableQuery.Proofs.Rows.CellOrder
import TableQuery.Proofs.Rows.HavingTruth

namespace TableQuery

open Sql

namespace Json

def isScalar : Json → Bool
  | .null => false
  | .arr _ => false
  | .obj _ => false
  | _ => true

theorem isNull_of_isScalar {v : Json} (hv : v.isScalar = true) : v.isNull = false := by
  cases v <;> simp_all [isScalar, isNull]

end Json

namespace Cell

/-- Both read as numbers, and they are equal as numbers or as texts but not as both. -/
def EqualOneWay (a b : Json) : Prop :=
  ∃ x y, number? a = some x ∧ number? b = some y ∧ ¬(x == y ↔ text? a = text? b)

theorem number?_of_isNull {j : Json} (hj : j.isNull = true) : number? j = none := by
  cases j <;> simp_all [Json.isNull, number?]

theorem compareText_eq_iff {a b : String} : compareText a b = .eq ↔ a = b :=
  Std.LawfulEqCmp.compare_eq_iff_eq

theorem equal_iff_text?_iff {a b : Json} :
    (equal a b = true ↔ text? a = text? b) ↔ ¬EqualOneWay a b := by
  unfold equal EqualOneWay
  cases number? a with
  | none => simp
  | some x => cases number? b <;> simp

end Cell

namespace Filter

variable {v : Json}

/-- How a present cell is compared with the only item of a list. -/
def equalsItem (cell v : Json) : Bool :=
  if v.isNumber then holdsOf (· = .eq) (order? true cell v) else Cell.equal cell v

theorem isNumeric_singleton (field : String) (op : FilterOp) :
    isNumeric ⟨field, op, some (.arr [v])⟩ = v.isNumber := by
  simp [isNumeric]

section Scalar

variable (hv : v.isScalar = true)

include hv

theorem operandItems_of_isScalar : Condition.operandItems (some v) = [v] := by
  cases v <;> simp_all [Json.isScalar, Condition.operandItems]

theorem isNumeric_of_isScalar (field : String) (op : FilterOp) :
    isNumeric ⟨field, op, some v⟩ = v.isNumber := by
  cases v <;> simp_all [Json.isScalar, isNumeric]

theorem listed_of_isScalar (field : String) (op : FilterOp) (wanted : Bool) (cell : Option Json) :
    listed ⟨field, op, some v⟩ wanted cell = listed ⟨field, op, some (.arr [v])⟩ wanted cell := by
  unfold listed isMember
  rw [operandItems_of_isScalar hv, isNumeric_of_isScalar hv, isNumeric_singleton]
  rfl

theorem compares_of_isScalar (field : String) (op : FilterOp) (test : Ordering → Bool)
    (ifAbsent : Bool) (cell : Option Json) :
    compares ⟨field, op, some v⟩ test ifAbsent cell =
      holdsOf test (order? v.isNumber (cell.getD .null) v) := by
  rw [← holdsOf_bind, compares]
  split
  · next h => cases h
  · next h =>
      cases h
      cases hv
  · next operand _ h =>
      obtain rfl := Option.some.inj h
      rw [isNumeric_of_isScalar hv]

theorem listed_iff_of_isScalar (field : String) (op : FilterOp) (wanted : Bool)
    (cell : Option Json) :
    listed ⟨field, op, some v⟩ wanted cell = true ↔
      (cell.getD .null).isNull = false ∧ equalsItem (cell.getD .null) v = wanted := by
  unfold listed isMember equalsItem
  rw [operandItems_of_isScalar hv, isNumeric_of_isScalar hv]
  cases cell <;> simp [Json.isNull]

end Scalar

section Present

variable {j : Json} (hj : j.isNull = false)

include hj

theorem exists_order?_texts (hv : v.isNull = false) :
    ∃ o, order? false j v = some o ∧ (o = .eq ↔ Cell.text? j = Cell.text? v) := by
  obtain ⟨a, ha⟩ := Option.ne_none_iff_exists'.mp
    (mt Cell.text?_eq_none_iff.mp (by simp [hj] : ¬j.isNull = true))
  obtain ⟨b, hb⟩ := Option.ne_none_iff_exists'.mp
    (mt Cell.text?_eq_none_iff.mp (by simp [hv] : ¬v.isNull = true))
  refine ⟨Cell.compareText a b, ?_, ?_⟩
  · simp [order?, hj, hv, ha, hb]
  · rw [Cell.compareText_eq_iff, ha, hb, Option.some_inj]

theorem order?_numbers_eq_none_iff (hv : v.isNumber = true) :
    order? true j v = none ↔ Cell.number? j = none := by
  have hn : v.isNull = false := by cases v <;> simp_all [Json.isNumber, Json.isNull]
  have hsome : (Cell.number? v).isSome := by cases v <;> simp_all [Json.isNumber, Cell.number?]
  obtain ⟨y, hy⟩ := Option.isSome_iff_exists.mp hsome
  cases hx : Cell.number? j <;> simp [order?, hj, hn, hx, hy]

end Present

section Agreement

variable {j : Json}

theorem order?_of_isNull (hj : j.isNull = true) (numeric : Bool) : order? numeric j v = none := by
  simp [order?, hj]

/-- An item that is no number is equal by another rule than an operand is. -/
theorem isIn_agrees_iff (hv : v.isNull = false) :
    ((j.isNull = false ∧ equalsItem j v = true) ↔
        holdsOf (· = .eq) (order? v.isNumber j v) = true) ↔
      ¬(v.isNumber = false ∧ Cell.EqualOneWay j v) := by
  rw [equalsItem]
  cases hj : j.isNull with
  | true => simp [order?_of_isNull hj, holdsOf, Cell.EqualOneWay, Cell.number?_of_isNull hj]
  | false =>
      cases v.isNumber with
      | true => simp
      | false =>
          obtain ⟨o, ho, htexts⟩ := exists_order?_texts hj hv
          simp [ho, holdsOf, htexts, Cell.equal_iff_text?_iff]

theorem notIn_agrees_iff (hv : v.isNull = false) :
    ((j.isNull = false ∧ equalsItem j v = false) ↔
        holdsOf (· ≠ .eq) (order? v.isNumber j v) = true) ↔
      ¬(v.isNumber = false ∧ Cell.EqualOneWay j v) ∧
        ¬(v.isNumber = true ∧ j.isNull = false ∧ Cell.number? j = none) := by
  rw [equalsItem]
  cases hj : j.isNull with
  | true => simp [order?_of_isNull hj, holdsOf, Cell.EqualOneWay, Cell.number?_of_isNull hj]
  | false =>
      cases hn : v.isNumber with
      | true =>
          rw [← order?_numbers_eq_none_iff hj hn]
          cases order? true j v <;> simp [holdsOf]
      | false =>
          obtain ⟨o, ho, htexts⟩ := exists_order?_texts hj hv
          have hnot : (Cell.equal j v = false ↔ ¬Cell.text? j = Cell.text? v) ↔
              ¬Cell.EqualOneWay j v := by
            rw [← Bool.not_eq_true, not_iff_not, Cell.equal_iff_text?_iff]
          simp [ho, holdsOf, htexts, hnot]

end Agreement

end Filter

theorem Sql.Predicate.ofOperand_of_isScalar {v : Json} (hv : v.isScalar = true)
    (relation : Relation) (ifAbsent : Predicate) :
    ofOperand relation ifAbsent (some v) = .compared relation v := by
  cases v <;> simp_all [Json.isScalar, ofOperand]

namespace Sql.Condition

theorem text_single_item {v : Json} (hv : v.isScalar = true) (d : Dialect) (e : Expr)
    (field : String) :
    let f (op : FilterOp) (value : Json) : Filter := ⟨field, op, some value⟩
    let subject := (Condition.subject ⟨e, f .eq v⟩).text d
    (∀ value ∈ [.arr [v], v],
      Condition.text d ⟨e, f .isIn value⟩ = subject ++ " IN (" ++ literal d v ++ ")" ∧
        Condition.text d ⟨e, f .notIn value⟩ = subject ++ " NOT IN (" ++ literal d v ++ ")") ∧
      Condition.text d ⟨e, f .eq v⟩ = subject ++ " = " ++ literal d v ∧
      Condition.text d ⟨e, f .notEq v⟩ = subject ++ " <> " ++ literal d v := by
  intro f subject
  have hsubject {op : FilterOp} {value : Json} (h : (f op value).isNumeric = v.isNumber) :
      (Condition.subject ⟨e, f op value⟩).text d = subject := by
    simp only [subject, Condition.subject, h, f, Filter.isNumeric_of_isScalar hv]
  have hitems : ∀ value ∈ [.arr [v], v],
      operandItems (some value) = [v] ∧ ∀ op, (f op value).isNumeric = v.isNumber := by
    intro value hvalue
    rcases List.mem_pair.mp hvalue with rfl | rfl
    · exact ⟨rfl, Filter.isNumeric_singleton field⟩
    · exact ⟨Filter.operandItems_of_isScalar hv, Filter.isNumeric_of_isScalar hv field⟩
  have hscalar (op : FilterOp) := hsubject (Filter.isNumeric_of_isScalar hv field op)
  refine ⟨fun value hvalue => ?_, ?_, ?_⟩
  · obtain ⟨hvalues, hnumeric⟩ := hitems value hvalue
    rw [text_eq_predicate, text_eq_predicate, hsubject (hnumeric .isIn), hsubject (hnumeric .notIn)]
    simp only [Filter.predicate, f, hvalues, Predicate.ofItems, Predicate.text, List.map_cons,
      List.map_nil, String.intercalate_singleton, and_self]
  · have heq : " = " = " " ++ "=" ++ " " := by decide
    rw [text_eq_predicate, hscalar]
    simp only [Filter.predicate, f, Predicate.ofOperand_of_isScalar hv, Predicate.text,
      Relation.symbol, heq, String.append_assoc]
  · have hne : " <> " = " " ++ "<>" ++ " " := by decide
    rw [text_eq_predicate, hscalar]
    simp only [Filter.predicate, f, Predicate.ofOperand_of_isScalar hv, Predicate.text,
      Relation.symbol, hne, String.append_assoc]

end Sql.Condition

/-- A list of one scalar is taken for the scalar, and written of the same subject as an equality. On
result rows membership and equality part exactly where the scalar is no number, but reads as one as
the cell does, and the two are equal only as numbers or only as texts. The negations part also where
the scalar is a number and a present cell does not read as one. -/
theorem single_item_iff (field : String) {v : Json} (hv : v.isScalar = true) (r : Row) :
    let f (op : FilterOp) (value : Json) : Filter := ⟨field, op, some value⟩
    let cell := ((f .eq v).cell r).getD .null
    let apart := v.isNumber = false ∧ Cell.EqualOneWay cell v
    let unread := v.isNumber = true ∧ cell.isNull = false ∧ Cell.number? cell = none
    (∀ op ∈ [FilterOp.isIn, .notIn], (f op (.arr [v])).holds r = (f op v).holds r) ∧
      ((f .isIn v).holds r = (f .eq v).holds r ↔ ¬apart) ∧
      ((f .notIn v).holds r = (f .notEq v).holds r ↔ ¬apart ∧ ¬unread) ∧
      ∀ d e, let subject := (Condition.subject ⟨e, f .eq v⟩).text d
        (∀ value ∈ [.arr [v], v],
          Condition.text d ⟨e, f .isIn value⟩ = subject ++ " IN (" ++ literal d v ++ ")" ∧
            Condition.text d ⟨e, f .notIn value⟩ = subject ++ " NOT IN (" ++ literal d v ++ ")") ∧
          Condition.text d ⟨e, f .eq v⟩ = subject ++ " = " ++ literal d v ∧
          Condition.text d ⟨e, f .notEq v⟩ = subject ++ " <> " ++ literal d v := by
  intro f cell apart unread
  have hnull := Json.isNull_of_isScalar hv
  refine ⟨?_, ?_, ?_, fun d e => Condition.text_single_item hv d e field⟩
  · intro op hop
    rcases List.mem_pair.mp hop with rfl | rfl <;> exact (Filter.listed_of_isScalar hv _ _ _ _).symm
  · have hin := Filter.listed_iff_of_isScalar hv field .isIn true ((f .eq v).cell r)
    have heq : (f .eq v).holds r = Filter.holdsOf (· = .eq) (Filter.order? v.isNumber cell v) :=
      Filter.compares_of_isScalar hv field .eq _ _ _
    rw [Bool.eq_iff_iff, heq]
    exact (iff_congr hin Iff.rfl).trans (Filter.isIn_agrees_iff hnull)
  · have hnotIn := Filter.listed_iff_of_isScalar hv field .notIn false ((f .eq v).cell r)
    have hnotEq : (f .notEq v).holds r =
        Filter.holdsOf (· ≠ .eq) (Filter.order? v.isNumber cell v) :=
      Filter.compares_of_isScalar hv field .notEq _ _ _
    rw [Bool.eq_iff_iff, hnotEq]
    exact (iff_congr hnotIn Iff.rfl).trans (Filter.notIn_agrees_iff hnull)

theorem eu_single_item :
    let f (op : FilterOp) (value : Json) : Filter := ⟨"region", op, some value⟩
    let r : Row := ⟨[("region", .str "us")]⟩
    (f .isIn (.arr [.str "eu"])).holds r = (f .eq (.str "eu")).holds r ∧
      (f .notIn (.arr [.str "eu"])).holds r = (f .notEq (.str "eu")).holds r := by
  intro f r
  have hv : (Json.str "eu").isScalar = true := rfl
  have heu : Cell.number? (.str "eu") = none := by decide +kernel
  have hother (cell : Json) : ¬Cell.EqualOneWay cell (.str "eu") := by
    rintro ⟨x, y, -, hy, -⟩
    simp [heu] at hy
  obtain ⟨hlist, hin, hnotIn, -⟩ := single_item_iff "region" hv r
  exact ⟨(hlist .isIn (by simp)).trans (hin.mpr fun h => hother _ h.2),
    (hlist .notIn (by simp)).trans
      (hnotIn.mpr ⟨fun h => hother _ h.2, fun h => by cases h.1⟩)⟩

/-- `2.0` is 2 as a number and not as a text, and whether `abc` is the number 5 is unknown. -/
theorem single_item_parts :
    let f (op : FilterOp) (value : Json) : Filter := ⟨"med", op, some value⟩
    let two : Row := ⟨[("med", .int 2)]⟩
    let abc : Row := ⟨[("med", .str "abc")]⟩
    (f .isIn (.arr [.str "2.0"])).holds two = true ∧ (f .eq (.str "2.0")).holds two = false ∧
      (f .notIn (.arr [.int 5])).holds abc = true ∧ (f .notEq (.int 5)).holds abc = false := by
  decide +kernel

end TableQuery
