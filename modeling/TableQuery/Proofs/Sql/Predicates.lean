import Mathlib.Tactic.Common
import TableQuery.Sql.Expr

namespace TableQuery

namespace Sql

/-- A truth value; none is unknown. -/
abbrev Truth := Option Bool

namespace Truth

def not (t : Truth) : Truth := t.map (!·)

def and : Truth → Truth → Truth
  | some false, _ => some false
  | _, some false => some false
  | some true, some true => some true
  | _, _ => none

def or : Truth → Truth → Truth
  | some true, _ => some true
  | _, some true => some true
  | some false, some false => some false
  | _, _ => none

def any : List Truth → Truth := List.foldr or (some false)

theorem and_eq_true_iff {s t : Truth} : s.and t = some true ↔ s = some true ∧ t = some true := by
  rcases s with _ | _ | _ <;> rcases t with _ | _ | _ <;> simp [and]

theorem or_eq_true_iff {s t : Truth} : s.or t = some true ↔ s = some true ∨ t = some true := by
  rcases s with _ | _ | _ <;> rcases t with _ | _ | _ <;> simp [or]

theorem or_eq_false_iff {s t : Truth} :
    s.or t = some false ↔ s = some false ∧ t = some false := by
  rcases s with _ | _ | _ <;> rcases t with _ | _ | _ <;> simp [or]

theorem or_eq_none_iff {s t : Truth} :
    s.or t = none ↔ (s ≠ some true ∧ t ≠ some true) ∧ (s = none ∨ t = none) := by
  rcases s with _ | _ | _ <;> rcases t with _ | _ | _ <;> simp [or]

theorem not_eq_true_iff {t : Truth} : t.not = some true ↔ t = some false := by
  rcases t with _ | _ | _ <;> simp [not]

theorem any_eq_true_iff {ts : List Truth} : any ts = some true ↔ some true ∈ ts := by
  induction ts with
  | nil => simp [any]
  | cons t ts ih =>
      change t.or (any ts) = _ ↔ _
      rw [or_eq_true_iff, ih, List.mem_cons, eq_comm (a := t)]

theorem any_eq_false_iff {ts : List Truth} : any ts = some false ↔ ∀ t ∈ ts, t = some false := by
  induction ts with
  | nil => simp [any]
  | cons t ts ih =>
      change t.or (any ts) = _ ↔ _
      rw [or_eq_false_iff, ih, List.forall_mem_cons]

/-- A disjunction is unknown if none of its values is true and one is unknown. -/
theorem any_eq_none_iff {ts : List Truth} : any ts = none ↔ some true ∉ ts ∧ none ∈ ts := by
  induction ts with
  | nil => simp [any]
  | cons t ts ih =>
      change t.or (any ts) = _ ↔ _
      rw [or_eq_none_iff, ih, Ne, Ne, any_eq_true_iff]
      simp only [List.mem_cons, not_or, eq_comm (a := t)]
      tauto

end Truth

inductive Relation
  | eq
  | notEq
  | gt
  | gte
  | lt
  | lte
deriving DecidableEq, Repr

namespace Relation

def symbol : Relation → String
  | .eq => "="
  | .notEq => "<>"
  | .gt => ">"
  | .gte => ">="
  | .lt => "<"
  | .lte => "<="

def test : Relation → Ordering → Bool
  | .eq, o => o = .eq
  | .notEq, o => o ≠ .eq
  | .gt, o => o = .gt
  | .gte, o => o ≠ .lt
  | .lt, o => o = .lt
  | .lte, o => o ≠ .gt

end Relation

/-- What a filter says of its subject, or of every row. -/
inductive Predicate
  | constant (b : Bool)
  | isNull
  | isNotNull
  | compared (relation : Relation) (operand : Json)
  | isIn (items : List Json)
  | notIn (items : List Json)
  | between (low high : Json)

namespace Predicate

def text (d : Dialect) (subject : String) : Predicate → String
  | .constant true => "1 = 1"
  | .constant false => "1 = 0"
  | .isNull => subject ++ " IS NULL"
  | .isNotNull => subject ++ " IS NOT NULL"
  | .compared relation operand => subject ++ " " ++ relation.symbol ++ " " ++ literal d operand
  | .isIn items => subject ++ " IN (" ++ ", ".intercalate (items.map (literal d)) ++ ")"
  | .notIn items => subject ++ " NOT IN (" ++ ", ".intercalate (items.map (literal d)) ++ ")"
  | .between low high => subject ++ " BETWEEN " ++ literal d low ++ " AND " ++ literal d high

/-- A comparison; without an operand it is another predicate. -/
def ofOperand (relation : Relation) (ifAbsent : Predicate) : Option Json → Predicate
  | none => ifAbsent
  | some .null => ifAbsent
  | some operand => .compared relation operand

def ofItems (predicate : List Json → Predicate) (ifEmpty : Predicate) : List Json → Predicate
  | [] => ifEmpty
  | items => predicate items

def ofBounds : Option Json → Predicate
  | some (.arr [low, high]) => .between low high
  | _ => .constant true

end Predicate

end Sql

open Sql

/-- The predicate that a filter is written as. -/
def Filter.predicate (f : Filter) : Predicate :=
  match f.op with
  | .eq => .ofOperand .eq .isNull f.value
  | .notEq => .ofOperand .notEq .isNotNull f.value
  | .gt => .ofOperand .gt (.constant false) f.value
  | .gte => .ofOperand .gte (.constant false) f.value
  | .lt => .ofOperand .lt (.constant false) f.value
  | .lte => .ofOperand .lte (.constant false) f.value
  | .isIn => .ofItems .isIn (.constant false) (Condition.operandItems f.value)
  | .notIn => .ofItems .notIn (.constant true) (Condition.operandItems f.value)
  | .between => .ofBounds f.value
  | .isNull => .isNull
  | .isNotNull => .isNotNull

namespace Sql.Condition

theorem compared_eq (d : Dialect) (subject : String) (relation : Relation) (ifAbsent : Predicate)
    (value : Option Json) :
    compared d subject relation.symbol (ifAbsent.text d subject) value =
      (Predicate.ofOperand relation ifAbsent value).text d subject := by
  rcases value with _ | _ | _ | _ | _ | _ | _ | _ <;> rfl

theorem listed_isIn (d : Dialect) (subject : String) (items : List Json) :
    listed d subject "IN" never items =
      (Predicate.ofItems .isIn (.constant false) items).text d subject := by
  have hopen : " IN (" = " " ++ "IN" ++ " (" := by decide
  cases items with
  | nil => rfl
  | cons item items =>
      simp only [listed, Predicate.ofItems, Predicate.text, hopen, String.append_assoc]
      rfl

theorem listed_notIn (d : Dialect) (subject : String) (items : List Json) :
    listed d subject "NOT IN" always items =
      (Predicate.ofItems .notIn (.constant true) items).text d subject := by
  have hopen : " NOT IN (" = " " ++ "NOT IN" ++ " (" := by decide
  cases items with
  | nil => rfl
  | cons item items =>
      simp only [listed, Predicate.ofItems, Predicate.text, hopen, String.append_assoc]
      rfl

theorem between_eq (d : Dialect) (subject : String) (value : Option Json) :
    (match value with
      | some (.arr [low, high]) =>
        subject ++ " BETWEEN " ++ literal d low ++ " AND " ++ literal d high
      | _ => always) = (Predicate.ofBounds value).text d subject := by
  unfold Predicate.ofBounds
  split <;> rfl

theorem text_eq_predicate (d : Dialect) (c : Condition) :
    c.text d = c.filter.predicate.text d (c.subject.text d) := by
  unfold text Filter.predicate
  cases c.filter.op with
  | eq => exact compared_eq d _ .eq .isNull _
  | notEq => exact compared_eq d _ .notEq .isNotNull _
  | gt => exact compared_eq d _ .gt (.constant false) _
  | gte => exact compared_eq d _ .gte (.constant false) _
  | lt => exact compared_eq d _ .lt (.constant false) _
  | lte => exact compared_eq d _ .lte (.constant false) _
  | isIn => exact listed_isIn d _ _
  | notIn => exact listed_notIn d _ _
  | between => exact between_eq d _ _
  | isNull | isNotNull => rfl

end Sql.Condition

end TableQuery
