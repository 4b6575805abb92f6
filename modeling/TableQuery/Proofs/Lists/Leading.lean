import Mathlib.Tactic.Common

namespace TableQuery

variable {α : Type} {before : α → α → Prop} {xs : List α} {x y : α}

/-- The item comes before all items in front of it, and none behind it comes before it. -/
def Leads (before : α → α → Prop) (xs : List α) (x : α) : Prop :=
  ∃ front behind, xs = front ++ x :: behind ∧ (∀ y ∈ front, before x y) ∧
    ∀ y ∈ behind, ¬before y x

namespace Leads

theorem head (h : ∀ y ∈ xs, ¬before y x) : Leads before (x :: xs) x :=
  ⟨[], xs, rfl, by simp, h⟩

theorem cons (h : Leads before xs x) (hxy : before x y) : Leads before (y :: xs) x := by
  obtain ⟨front, behind, rfl, hfront, hbehind⟩ := h
  exact ⟨y :: front, behind, rfl, List.forall_mem_cons.mpr ⟨hxy, hfront⟩, hbehind⟩

theorem last (h : ∀ y ∈ xs, before x y) : Leads before (xs ++ [x]) x :=
  ⟨xs, [], rfl, h, by simp⟩

theorem concat (h : Leads before xs x) (hyx : ¬before y x) : Leads before (xs ++ [y]) x := by
  obtain ⟨front, behind, rfl, hfront, hbehind⟩ := h
  refine ⟨front, behind ++ [y], by simp, hfront, fun z hz => ?_⟩
  rcases List.mem_append.mp hz with hz | hz
  · exact hbehind z hz
  · exact List.mem_singleton.mp hz ▸ hyx

theorem mem (h : Leads before xs x) : x ∈ xs := by
  obtain ⟨front, behind, rfl, -⟩ := h
  simp

theorem not_before (h : Leads before xs x) (hasymm : ∀ y ∈ xs, before x y → ¬before y x)
    (hy : y ∈ xs) : ¬before y x := by
  have hself (hx : before x x) : False := hasymm x h.mem hx hx
  obtain ⟨front, behind, rfl, hfront, hbehind⟩ := h
  rcases List.mem_append.mp hy with hf | hb
  · exact hasymm y hy (hfront y hf)
  · rcases List.mem_cons.mp hb with rfl | hb
    · exact hself
    · exact hbehind y hb

theorem imp {before' : α → α → Prop} (h : Leads before xs x)
    (hahead : ∀ y ∈ xs, before x y → before' x y) (hback : ∀ y ∈ xs, before' y x → before y x) :
    Leads before' xs x := by
  obtain ⟨front, behind, rfl, hfront, hbehind⟩ := h
  refine ⟨front, behind, rfl, fun y hy => ?_, fun y hy hyx => ?_⟩
  · exact hahead y (List.mem_append_left _ hy) (hfront y hy)
  · exact hbehind y hy (hback y (by simp [hy]) hyx)

theorem eq_or_of_split {front behind front' behind' : List α}
    (he : front ++ x :: behind = front' ++ y :: behind') :
    x = y ∨ x ∈ front' ∧ y ∈ behind ∨ y ∈ front ∧ x ∈ behind' := by
  rcases List.append_eq_append_iff.mp he with ⟨between, rfl, ht⟩ | ⟨between, rfl, ht⟩ <;>
    cases between with
    | nil => simp_all
    | cons z between =>
        obtain ⟨rfl, rfl⟩ := List.cons.inj ht
        simp

theorem unique (hx : Leads before xs x) (hy : Leads before xs y) : x = y := by
  obtain ⟨front, behind, rfl, hfront, hbehind⟩ := hx
  obtain ⟨front', behind', he, hfront', hbehind'⟩ := hy
  rcases eq_or_of_split he with h | ⟨hx, hy⟩ | ⟨hy, hx⟩
  · exact h
  · exact absurd (hfront' x hx) (hbehind y hy)
  · exact absurd (hfront y hy) (hbehind' x hx)

end Leads
end TableQuery
