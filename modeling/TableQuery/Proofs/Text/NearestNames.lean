import TableQuery.Proofs.Lists.Leading
import TableQuery.Proofs.Text.Edits
import TableQuery.Text.Distance

namespace TableQuery.Text

/-- A row of the table: the alignments of `before` with `seen` and with what is added to it from the
text. Both are passed already and stand last character first. -/
def alignmentRow (before seen : List Char) : List Char → List Nat
  | [] => [alignment before seen]
  | c :: cs => alignment before seen :: alignmentRow before (c :: seen) cs

section Table

variable (before seen : List Char)

theorem alignmentRow_eq_cons (cs : List Char) :
    ∃ row, alignmentRow before seen cs = alignment before seen :: row := by
  cases cs with
  | nil => exact ⟨[], rfl⟩
  | cons c cs => exact ⟨alignmentRow before (c :: seen) cs, rfl⟩

/-- The rest of the next row. -/
theorem distanceCells_alignmentRow (x : Char) (cs : List Char) :
    alignment (x :: before) seen ::
        distanceCells x (alignment (x :: before) seen) cs (alignmentRow before seen cs) =
      alignmentRow (x :: before) seen cs := by
  induction cs generalizing seen with
  | nil => rfl
  | cons c cs ih =>
      obtain ⟨row, hrow⟩ := alignmentRow_eq_cons before (c :: seen) cs
      have hcell := alignment_cons_cons before seen x c
      have hrest := ih (c :: seen)
      rw [hrow] at hrest
      rw [alignmentRow, alignmentRow, hrow, distanceCells, ← hcell, hrest]

theorem distanceRow_alignmentRow (x : Char) (b : List Char) :
    distanceRow b (alignmentRow before [] b) x = alignmentRow (x :: before) [] b := by
  obtain ⟨row, hrow⟩ := alignmentRow_eq_cons before [] b
  have hfirst : (alignmentRow before [] b).headD 0 + 1 = alignment (x :: before) [] := by
    rw [hrow, List.headD_cons, alignment_nil_right, alignment_nil_right, List.length_cons]
  rw [distanceRow, hfirst]
  exact distanceCells_alignmentRow before [] x b

theorem foldl_distanceRow (a b : List Char) :
    a.foldl (distanceRow b) (alignmentRow before [] b) =
      alignmentRow (a.reverse ++ before) [] b := by
  induction a generalizing before with
  | nil => rfl
  | cons x a ih =>
      rw [List.foldl_cons, distanceRow_alignmentRow, ih, List.reverse_cons, List.append_assoc]
      rfl

theorem alignmentRow_nil (cs : List Char) :
    alignmentRow [] seen cs = List.range' seen.length (cs.length + 1) := by
  induction cs generalizing seen with
  | nil =>
      rw [alignmentRow, alignment_nil_left]
      rfl
  | cons c cs ih =>
      rw [alignmentRow, ih, alignment_nil_left]
      rfl

theorem getLastD_alignmentRow (cs : List Char) :
    (alignmentRow before seen cs).getLastD 0 = alignment before (cs.reverse ++ seen) := by
  induction cs generalizing seen with
  | nil => rfl
  | cons c cs ih =>
      obtain ⟨row, hrow⟩ := alignmentRow_eq_cons before (c :: seen) cs
      have hlast := ih (c :: seen)
      rw [hrow] at hlast
      rw [alignmentRow, hrow, List.reverse_cons, List.append_assoc]
      exact hlast

theorem distance_eq_alignment (a b : List Char) : distance a b = alignment a.reverse b.reverse := by
  have hrow : List.range (b.length + 1) = alignmentRow [] [] b := by
    rw [alignmentRow_nil, List.range_eq_range']
    rfl
  rw [distance, hrow, foldl_distanceRow, getLastD_alignmentRow, List.append_nil, List.append_nil]

end Table

section Distance

variable (a b c : List Char)

theorem isLeast_distance : IsLeast {n | Edits n a b} (distance a b) := by
  have h := isLeast_alignment a.reverse b.reverse
  simp only [Edits.reverse_iff] at h
  rw [distance_eq_alignment]
  exact h

example : distance "kitten".toList "sitting".toList = 3 := by decide

theorem distance_eq_zero_iff : distance a b = 0 ↔ a = b := by
  rw [← Edits.zero_iff]
  constructor
  · intro h
    exact h ▸ (isLeast_distance a b).1
  · intro h
    exact Nat.le_zero.mp ((isLeast_distance a b).2 h)

theorem distance_comm : distance a b = distance b a :=
  Nat.le_antisymm ((isLeast_distance a b).2 (isLeast_distance b a).1.symm)
    ((isLeast_distance b a).2 (isLeast_distance a b).1.symm)

theorem distance_triangle : distance a c ≤ distance a b + distance b c :=
  (isLeast_distance a c).2 ((isLeast_distance a b).1.trans (isLeast_distance b c).1)

end Distance

section FirstLeast

variable {α : Type} {key : α → Nat} {xs : List α}

theorem firstLeast_eq_none_iff : firstLeast key xs = none ↔ xs = [] := by
  cases xs with
  | nil => simp [firstLeast]
  | cons x xs =>
      rw [firstLeast]
      split
      · simp
      · split <;> simp

theorem leads_of_firstLeast {x : α} (h : firstLeast key xs = some x) :
    Leads (fun a b => key a < key b) xs x := by
  induction xs generalizing x with
  | nil => cases h
  | cons y xs ih =>
      rw [firstLeast] at h
      cases hr : firstLeast key xs with
      | none =>
          rw [hr] at h
          obtain rfl := Option.some.inj h
          rw [firstLeast_eq_none_iff.mp hr]
          exact .head (by simp)
      | some z =>
          rw [hr] at h
          dsimp only at h
          have hz := ih hr
          split at h
          · next hlt =>
              obtain rfl := Option.some.inj h
              exact hz.cons hlt
          · next hle =>
              obtain rfl := Option.some.inj h
              refine .head fun w hw hlt => hle ?_
              exact (Nat.not_lt.mp (hz.not_before (fun _ _ => Nat.lt_asymm) hw)).trans_lt hlt

theorem firstLeast_eq_some_iff {x : α} :
    firstLeast key xs = some x ↔ Leads (fun a b => key a < key b) xs x := by
  refine ⟨leads_of_firstLeast, fun h => ?_⟩
  cases hr : firstLeast key xs with
  | none =>
      rw [firstLeast_eq_none_iff.mp hr] at h
      cases h.mem
  | some y => rw [(leads_of_firstLeast hr).unique h]

end FirstLeast

def loweredDistance (name candidate : String) : Nat :=
  distance (lowercase name).toList (lowercase candidate).toList

theorem misspelling_lt_iff (name a b : String) :
    misspelling name a < misspelling name b ↔ loweredDistance name a < loweredDistance name b := by
  have hzero (c : String) : lowercase c = lowercase name ↔ loweredDistance name c = 0 := by
    rw [loweredDistance, distance_eq_zero_iff, String.toList_inj, eq_comm]
  simp only [misspelling, hzero]
  change (if loweredDistance name a = 0 then 0 else loweredDistance name a + 1) <
    (if loweredDistance name b = 0 then 0 else loweredDistance name b + 1) ↔ _
  split <;> split <;> omega

/-- A name is suggested unless none is known, and it is the first one of those that take the fewest
edits without regard to case. The distance is the least number of single characters that have to be
inserted, deleted or substituted; it is zero for equal texts only, symmetric, and no greater than a
way round. -/
theorem suggestion_is_nearest (name : String) (candidates : List String) :
    (nearest name candidates = none ↔ candidates = []) ∧
      (∀ c, nearest name candidates = some c ↔
        Leads (fun a b => loweredDistance name a < loweredDistance name b) candidates c) ∧
      (∀ a b, IsLeast {n | Edits n a b} (distance a b)) ∧
      (∀ a b, distance a b = 0 ↔ a = b) ∧ (∀ a b, distance a b = distance b a) ∧
      ∀ a b c, distance a c ≤ distance a b + distance b c := by
  refine ⟨firstLeast_eq_none_iff, fun c => ?_, isLeast_distance, distance_eq_zero_iff,
    distance_comm, distance_triangle⟩
  rw [nearest, firstLeast_eq_some_iff]
  simp only [misspelling_lt_iff]

end TableQuery.Text
