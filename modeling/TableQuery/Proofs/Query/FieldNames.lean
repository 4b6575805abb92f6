import Mathlib.Tactic.Common
import TableQuery.Query.Names

namespace TableQuery

namespace Text

variable {mark : Char}

theorem cutAt_eq_none_iff (cs : List Char) : cutAt mark cs = none ↔ mark ∉ cs := by
  induction cs with
  | nil => simp [cutAt]
  | cons c cs ih =>
      by_cases hc : c = mark
      · simp [cutAt, hc]
      · simp [cutAt, hc, ih, Ne.symm hc]

theorem cutAt_append {head : List Char} (h : mark ∉ head) (tail : List Char) :
    cutAt mark (head ++ mark :: tail) = some (head, tail) := by
  induction head with
  | nil => simp [cutAt]
  | cons c head ih =>
      obtain ⟨hc, hh⟩ : mark ≠ c ∧ mark ∉ head := by simpa using h
      simp [cutAt, hc.symm, ih hh]

theorem cutAt_sound (cs head tail : List Char) (h : cutAt mark cs = some (head, tail)) :
    cs = head ++ mark :: tail ∧ mark ∉ head := by
  induction cs generalizing head with
  | nil => simp [cutAt] at h
  | cons c cs ih =>
      by_cases hc : c = mark
      · obtain ⟨rfl, rfl⟩ : head = [] ∧ tail = cs := by simpa [cutAt, hc, eq_comm] using h
        simp [hc]
      · obtain ⟨before, hr, rfl⟩ :
            ∃ before, cutAt mark cs = some (before, tail) ∧ c :: before = head := by
          simpa [cutAt, hc] using h
        obtain ⟨rfl, hm⟩ := ih before hr
        exact ⟨rfl, by simp [Ne.symm hc, hm]⟩

/-- A text cut at two places where the mark stands: the cuts are one, or what lies between them
belongs to the tail of the one and to the head of the other. -/
theorem cut_eq_cut_cases {head tail head' tail' : List Char}
    (h : head ++ mark :: tail = head' ++ mark :: tail') :
    (head = head' ∧ tail = tail') ∨
      (∃ between, tail = between ++ mark :: tail' ∧ head' = head ++ mark :: between) ∨
      ∃ between, tail' = between ++ mark :: tail ∧ head = head' ++ mark :: between := by
  rcases List.append_eq_append_iff.mp h with ⟨between, rfl, ht⟩ | ⟨between, rfl, ht⟩ <;>
    cases between with
    | nil => simp_all
    | cons c between =>
        obtain ⟨rfl, rfl⟩ := List.cons.inj ht
        simp

end Text

namespace FieldRef

theorem ofField_bare {field : String} (h : '.' ∉ field.toList) : ofField field = ⟨none, field⟩ := by
  simp [ofField, (Text.cutAt_eq_none_iff _).mpr h]

theorem ofField_qualified {table : String} (h : '.' ∉ table.toList) (column : String) :
    ofField (table ++ "." ++ column) = ⟨some table, column⟩ := by
  have hl : (table ++ "." ++ column).toList = table.toList ++ '.' :: column.toList := by simp
  simp [ofField, hl, Text.cutAt_append h]

theorem bare_or_qualified (field : String) :
    '.' ∉ field.toList ∨
      ∃ table column, '.' ∉ table.toList ∧ field = table ++ "." ++ column := by
  cases hc : Text.cutAt '.' field.toList with
  | none => exact .inl ((Text.cutAt_eq_none_iff _).mp hc)
  | some parts =>
      obtain ⟨table, column⟩ := parts
      obtain ⟨he, ht⟩ := Text.cutAt_sound _ _ _ hc
      refine .inr ⟨String.ofList table, String.ofList column, by simpa using ht, ?_⟩
      apply String.toList_inj.mp
      simp [he]

end FieldRef

theorem isQualified_iff {field : String} :
    isQualified field = true ↔
      ∃ table column, '.' ∉ table.toList ∧ field = table ++ "." ++ column := by
  constructor
  · intro h
    rcases FieldRef.bare_or_qualified field with hf | hq
    · simp [isQualified, FieldRef.ofField_bare hf] at h
    · exact hq
  · rintro ⟨table, column, ht, rfl⟩
    simp [isQualified, FieldRef.ofField_qualified ht]

theorem outputName_bare {field : String} (h : isQualified field = false) :
    outputName field = field := by
  rcases FieldRef.bare_or_qualified field with hf | hq
  · simp [outputName, FieldRef.ofField_bare hf]
  · simp [isQualified_iff.mpr hq] at h

theorem outputName_qualified {table : String} (h : '.' ∉ table.toList) (column : String) :
    outputName (table ++ "." ++ column) = table ++ "_" ++ column := by
  simp [outputName, FieldRef.ofField_qualified h]

theorem outputName_ne {field : String} (h : isQualified field = true) :
    outputName field ≠ field := by
  obtain ⟨table, column, ht, rfl⟩ := isQualified_iff.mp h
  rw [outputName_qualified ht]
  intro he
  have hl := congrArg String.toList he
  simp at hl

/-- A qualified field, and another one with an underscore in the place of its point: a bare field,
or one with its own point in the place of a later underscore. -/
inductive Respelled : String → String → Prop
  | bare {table column : String} (ht : '.' ∉ table.toList) (hc : '.' ∉ column.toList) :
      Respelled (table ++ "." ++ column) (table ++ "_" ++ column)
  | qualified {table middle : String} (ht : '.' ∉ table.toList) (hm : '.' ∉ middle.toList)
      (column : String) :
      Respelled (table ++ "." ++ (middle ++ "_" ++ column)) (table ++ "_" ++ middle ++ "." ++ column)

namespace Respelled

variable {field other : String}

theorem not_point_mem_join {table middle : String} (ht : '.' ∉ table.toList)
    (hm : '.' ∉ middle.toList) : '.' ∉ (table ++ "_" ++ middle).toList := by
  simp [ht, hm]

theorem outputName_eq (h : Respelled field other) : outputName field = outputName other := by
  cases h with
  | @bare table column ht hc =>
      have hb := FieldRef.ofField_bare (not_point_mem_join ht hc)
      rw [outputName_qualified ht, outputName, hb]
  | @qualified table middle ht hm column =>
      rw [outputName_qualified ht, outputName_qualified (not_point_mem_join ht hm)]
      simp only [String.append_assoc]

theorem ne (h : Respelled field other) : field ≠ other := by
  intro he
  have hl := congrArg String.toList he
  cases h <;> simp at hl

end Respelled

theorem underscores_cases {table column table' column' : String}
    (h : table ++ "_" ++ column = table' ++ "_" ++ column') :
    (table = table' ∧ column = column') ∨
      (∃ middle, column = middle ++ "_" ++ column' ∧ table' = table ++ "_" ++ middle) ∨
      ∃ middle, column' = middle ++ "_" ++ column ∧ table = table' ++ "_" ++ middle := by
  have hl : table.toList ++ '_' :: column.toList = table'.toList ++ '_' :: column'.toList := by
    simpa using congrArg String.toList h
  rcases Text.cut_eq_cut_cases hl with ⟨ht, hc⟩ | ⟨middle, hc, ht⟩ | ⟨middle, hc, ht⟩
  · exact .inl ⟨String.toList_inj.mp ht, String.toList_inj.mp hc⟩
  · refine .inr (.inl ⟨String.ofList middle, ?_, ?_⟩) <;> apply String.toList_inj.mp
    · simp [hc]
    · simp [ht]
  · refine .inr (.inr ⟨String.ofList middle, ?_, ?_⟩) <;> apply String.toList_inj.mp
    · simp [hc]
    · simp [ht]

/-- Different fields have one output column exactly if one is the other one respelled. -/
theorem outputName_eq_iff {field other : String} :
    outputName field = outputName other ↔
      field = other ∨ Respelled field other ∨ Respelled other field := by
  constructor
  · intro h
    rcases FieldRef.bare_or_qualified field with hf | ⟨table, column, ht, rfl⟩ <;>
      rcases FieldRef.bare_or_qualified other with ho | ⟨table', column', ht', rfl⟩
    · rw [outputName, outputName, FieldRef.ofField_bare hf, FieldRef.ofField_bare ho] at h
      exact .inl h
    · rw [outputName_qualified ht', outputName, FieldRef.ofField_bare hf] at h
      obtain rfl : field = table' ++ "_" ++ column' := h
      exact .inr (.inr (.bare ht' fun hc => hf (by simp [hc])))
    · rw [outputName_qualified ht, outputName, FieldRef.ofField_bare ho] at h
      obtain rfl : table ++ "_" ++ column = other := h
      exact .inr (.inl (.bare ht fun hc => ho (by simp [hc])))
    · rw [outputName_qualified ht, outputName_qualified ht'] at h
      rcases underscores_cases h with ⟨rfl, rfl⟩ | ⟨middle, rfl, rfl⟩ | ⟨middle, rfl, rfl⟩
      · exact .inl rfl
      · exact .inr (.inl (.qualified ht (fun hm => ht' (by simp [hm])) column'))
      · exact .inr (.inr (.qualified ht' (fun hm => ht (by simp [hm])) column))
  · rintro (rfl | h | h)
    · rfl
    · exact h.outputName_eq
    · exact h.outputName_eq.symm

end TableQuery
