import Mathlib.Data.List.Infix
import Mathlib.Tactic.Common
import TableQuery.Text.Split

namespace TableQuery.Text

theorem startsWith_iff {cs part : List Char} : startsWith cs part = true ↔ part <+: cs := by
  fun_induction startsWith cs part with
  | case1 => simp
  | case2 => simp
  | case3 c cs p ps ih => grind

theorem dropStart?_eq_some_iff {cs part rest : List Char} :
    dropStart? cs part = some rest ↔ cs = part ++ rest := by
  fun_induction dropStart? cs part with
  | case1 => simp
  | case2 => simp
  | case3 c cs ps ih => simp [ih]
  | case4 c cs p ps hc => simp [hc]

theorem containsChars_iff {cs part : List Char} :
    containsChars part cs = true ↔ part <:+: cs := by
  induction cs with
  | nil => simp [containsChars]
  | cons c rest ih => simp [containsChars, startsWith_iff, ih, List.infix_cons_iff]

theorem contains_iff {s part : String} :
    contains s part = true ↔ part.toList <:+: s.toList := containsChars_iff

/-- A part stands before a mark, after it or over it. -/
theorem infix_append_cons_iff {m : Char} {part a b : List Char} :
    part <:+: a ++ m :: b ↔
      part <:+: a ∨ part <:+: b ∨ ∃ u v, part = u ++ m :: v ∧ u <:+ a ∧ v <+: b := by
  constructor
  · intro h
    rcases List.infix_append_iff.mp h with h | h | ⟨s, t, rfl, hs, ht⟩
    · exact .inl h
    · rcases List.infix_cons_iff.mp h with h | h
      · rcases List.prefix_cons_iff.mp h with rfl | ⟨v, rfl, hv⟩
        · exact .inl List.nil_infix
        · exact .inr (.inr ⟨[], v, rfl, List.nil_suffix, hv⟩)
      · exact .inr (.inl h)
    · rcases List.prefix_cons_iff.mp ht with rfl | ⟨v, rfl, hv⟩
      · rw [List.append_nil]
        exact .inl hs.isInfix
      · exact .inr (.inr ⟨s, v, rfl, hs, hv⟩)
  · rintro (h | h | ⟨_, _, rfl, ⟨s, rfl⟩, ⟨t, rfl⟩⟩)
    · exact h.trans (List.prefix_append a _).isInfix
    · exact h.trans ((List.suffix_cons m b).trans (List.suffix_append a _)).isInfix
    · exact ⟨s, t, by simp⟩

theorem infix_around_iff {m : Char} {part a b : List Char} (hm : m ∉ part) :
    part <:+: a ++ m :: b ↔ part <:+: a ∨ part <:+: b := by
  rw [infix_append_cons_iff]
  refine or_congr_right (or_iff_left ?_)
  rintro ⟨u, v, rfl, -⟩
  exact hm (List.mem_append_right u List.mem_cons_self)

theorem infix_over_iff {m : Char} {u v a b : List Char} (hu : m ∉ u) (hv : m ∉ v) :
    u ++ m :: v <:+: a ++ m :: b ↔
      u ++ m :: v <:+: a ∨ u ++ m :: v <:+: b ∨ (u <:+ a ∧ v <+: b) := by
  rw [infix_append_cons_iff]
  refine or_congr_right (or_congr_right ⟨?_, fun h => ⟨u, v, rfl, h⟩⟩)
  rintro ⟨u', v', he, hs⟩
  obtain ⟨rfl, -, rfl⟩ := (List.append_cons_inj_of_notMem hu hv).mp he
  exact hs

end TableQuery.Text
