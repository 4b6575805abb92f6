import Mathlib.Order.Bounds.Basic
import Mathlib.Order.MinMax
import Mathlib.Tactic.Common

namespace TableQuery.Text

/-- One character is inserted, deleted or put in the place of another one. -/
inductive Edit : List Char → List Char → Prop
  | insert (front behind : List Char) (c : Char) : Edit (front ++ behind) (front ++ c :: behind)
  | delete (front behind : List Char) (c : Char) : Edit (front ++ c :: behind) (front ++ behind)
  | substitute (front behind : List Char) (c d : Char) :
      Edit (front ++ c :: behind) (front ++ d :: behind)

inductive Edits : Nat → List Char → List Char → Prop
  | refl (a : List Char) : Edits 0 a a
  | step {n : Nat} {a b c : List Char} (h : Edits n a b) (he : Edit b c) : Edits (n + 1) a c

section Edit

variable {a b : List Char}

theorem Edit.cons (h : Edit a b) (x : Char) : Edit (x :: a) (x :: b) := by
  cases h with
  | insert front behind c => exact .insert (x :: front) behind c
  | delete front behind c => exact .delete (x :: front) behind c
  | substitute front behind c d => exact .substitute (x :: front) behind c d

theorem Edit.symm (h : Edit a b) : Edit b a := by
  cases h with
  | insert front behind c => exact .delete front behind c
  | delete front behind c => exact .insert front behind c
  | substitute front behind c d => exact .substitute front behind d c

theorem Edit.reverse (h : Edit a b) : Edit a.reverse b.reverse := by
  cases h with
  | insert front behind c => simpa using Edit.insert behind.reverse front.reverse c
  | delete front behind c => simpa using Edit.delete behind.reverse front.reverse c
  | substitute front behind c d => simpa using Edit.substitute behind.reverse front.reverse c d

end Edit

namespace Edits

variable {m n : Nat} {a b c : List Char}

theorem zero_iff : Edits 0 a b ↔ a = b := by
  constructor
  · intro h
    cases h
    rfl
  · rintro rfl
    exact .refl a

theorem cons (h : Edits n a b) (x : Char) : Edits n (x :: a) (x :: b) := by
  induction h with
  | refl a => exact .refl (x :: a)
  | step _ he ih => exact .step ih (he.cons x)

theorem trans (hab : Edits m a b) (hbc : Edits n b c) : Edits (m + n) a c := by
  induction hbc with
  | refl b => exact hab
  | step _ he ih => exact .step (ih hab) he

theorem symm (h : Edits n a b) : Edits n b a := by
  induction h with
  | refl a => exact .refl a
  | @step n a b c _ he ih =>
      have hfirst : Edits 1 c b := .step (.refl c) he.symm
      rw [Nat.add_comm]
      exact hfirst.trans ih

theorem reverse (h : Edits n a b) : Edits n a.reverse b.reverse := by
  induction h with
  | refl a => exact .refl a.reverse
  | step _ he ih => exact .step ih he.reverse

theorem reverse_iff : Edits n a.reverse b.reverse ↔ Edits n a b :=
  ⟨fun h => by simpa using h.reverse, reverse⟩

end Edits

/-- The cost of the cheapest alignment: the first characters are matched, or one of them has no
partner. -/
def alignment : List Char → List Char → Nat
  | [], b => b.length
  | x :: a, [] => (x :: a).length
  | x :: a, y :: b =>
    min (alignment a b + if x = y then 0 else 1)
      (min (alignment a (y :: b) + 1) (alignment (x :: a) b + 1))
termination_by a b => a.length + b.length

section Alignment

variable (a b : List Char) (x y : Char)

@[simp]
theorem alignment_nil_left : alignment [] b = b.length := by
  rw [alignment]

@[simp]
theorem alignment_nil_right : alignment a [] = a.length := by
  cases a <;> rw [alignment]

theorem alignment_cons_cons : alignment (x :: a) (y :: b) =
    min (alignment a b + if x = y then 0 else 1)
      (min (alignment a (y :: b) + 1) (alignment (x :: a) b + 1)) := by
  rw [alignment]

theorem alignment_self : alignment a a = 0 := by
  induction a with
  | nil => exact alignment_nil_left []
  | cons x a ih => simp [alignment_cons_cons, ih]

/-- The alignment is a way of editing. -/
theorem edits_alignment : Edits (alignment a b) a b := by
  induction a, b using alignment.induct with
  | case1 b =>
      rw [alignment_nil_left]
      induction b with
      | nil => exact .refl []
      | cons y b ih => exact ih.step (.insert [] b y)
  | case2 x a =>
      rw [alignment_nil_right]
      induction (x :: a) with
      | nil => exact .refl []
      | cons x a ih => exact (ih.cons x).step (.delete [] [] x)
  | case3 x a y b ihboth ihdelete ihinsert =>
      have hmatch : Edits (alignment a b + if x = y then 0 else 1) (x :: a) (y :: b) := by
        by_cases hxy : x = y
        · rw [if_pos hxy, hxy]
          exact ihboth.cons y
        · rw [if_neg hxy]
          exact (ihboth.cons x).step (.substitute [] b x y)
      have hdelete := (ihdelete.cons x).step (.delete [] (y :: b) x)
      have hinsert := ihinsert.step (.insert [] b y)
      rw [alignment_cons_cons]
      exact min_rec' (Edits · (x :: a) (y :: b)) hmatch
        (min_rec' (Edits · (x :: a) (y :: b)) hdelete hinsert)

theorem alignment_insert_le : alignment a (y :: b) ≤ alignment a b + 1 := by
  cases a with
  | nil => simp
  | cons x a =>
      rw [alignment_cons_cons]
      omega

theorem alignment_cons_le : alignment (x :: a) b ≤ alignment a b + 1 := by
  cases b with
  | nil => simp
  | cons y b =>
      rw [alignment_cons_cons]
      omega

theorem alignment_delete_le : alignment a b ≤ alignment a (y :: b) + 1 := by
  induction a with
  | nil =>
      rw [alignment_nil_left, alignment_nil_left, List.length_cons]
      omega
  | cons x a ih =>
      have hcons := alignment_cons_le a b x
      rw [alignment_cons_cons]
      omega

theorem alignment_substitute_le (z : Char) : alignment a (z :: b) ≤ alignment a (y :: b) + 1 := by
  induction a with
  | nil => simp
  | cons x a ih =>
      have hmatch : (if x = z then 0 else 1) ≤ 1 := by split <;> decide
      rw [alignment_cons_cons, alignment_cons_cons]
      omega

variable {a b} {c : List Char}

theorem alignment_cons_right_le (h : ∀ a, alignment a c ≤ alignment a b + 1) (a : List Char) :
    alignment a (y :: c) ≤ alignment a (y :: b) + 1 := by
  induction a with
  | nil =>
      have hlength := h []
      rw [alignment_nil_left, alignment_nil_left] at hlength ⊢
      exact Nat.succ_le_succ hlength
  | cons x a ih =>
      have hboth := h a
      have hinsert := h (x :: a)
      rw [alignment_cons_cons, alignment_cons_cons]
      omega

theorem alignment_front_le (h : ∀ a, alignment a c ≤ alignment a b + 1) (front a : List Char) :
    alignment a (front ++ c) ≤ alignment a (front ++ b) + 1 := by
  induction front generalizing a with
  | nil => exact h a
  | cons y front ih => exact alignment_cons_right_le y ih a

theorem Edit.alignment_le (h : Edit b c) (a : List Char) : alignment a c ≤ alignment a b + 1 := by
  cases h with
  | insert front behind x =>
      exact alignment_front_le (fun a => alignment_insert_le a behind x) front a
  | delete front behind x =>
      exact alignment_front_le (fun a => alignment_delete_le a behind x) front a
  | substitute front behind x z =>
      exact alignment_front_le (fun a => alignment_substitute_le a behind x z) front a

theorem Edits.alignment_le {n : Nat} (h : Edits n a b) : alignment a b ≤ n := by
  induction h with
  | refl a => exact (alignment_self a).le
  | step _ he ih => exact (he.alignment_le _).trans (Nat.succ_le_succ ih)

theorem isLeast_alignment (a b : List Char) : IsLeast {n | Edits n a b} (alignment a b) :=
  ⟨edits_alignment a b, fun _ h => Edits.alignment_le h⟩

end Alignment

end TableQuery.Text
