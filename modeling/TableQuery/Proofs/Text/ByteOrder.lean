import Mathlib.Data.String.Basic
import Mathlib.Tactic.Common

namespace TableQuery.Text

/-- The first byte in which they differ is less in front, and neither ends before it. -/
inductive Below : List UInt8 → List UInt8 → Prop
  | here {x y : UInt8} {xs ys : List UInt8} (h : x < y) : Below (x :: xs) (y :: ys)
  | there {x : UInt8} {xs ys : List UInt8} (h : Below xs ys) : Below (x :: xs) (x :: ys)

section Encoding

variable {x y : UInt8} {xs ys : List UInt8}

theorem below_cons : Below (x :: xs) (y :: ys) ↔ x < y ∨ x = y ∧ Below xs ys := by
  constructor
  · rintro (h | h)
    · exact .inl h
    · exact .inr ⟨rfl, h⟩
  · rintro (h | ⟨rfl, h⟩)
    · exact .here h
    · exact .there h

theorem not_below_nil : ¬Below [] ys := nofun

theorem Below.append_lt (h : Below xs ys) (s t : List UInt8) : xs ++ s < ys ++ t := by
  induction h with
  | here h => exact List.cons_lt_cons_iff.mpr (.inl h)
  | there _ ih => exact List.cons_lt_cons_iff.mpr (.inr ⟨rfl, ih⟩)

theorem ofNat_lt_iff {m n : Nat} (hm : m < 256) (hn : n < 256) :
    UInt8.ofNat m < UInt8.ofNat n ↔ m < n := by
  rw [UInt8.lt_iff_toNat_lt, UInt8.toNat_ofNat', UInt8.toNat_ofNat', Nat.mod_eq_of_lt hm,
    Nat.mod_eq_of_lt hn]

theorem ofNat_eq_iff {m n : Nat} (hm : m < 256) (hn : n < 256) :
    UInt8.ofNat m = UInt8.ofNat n ↔ m = n := by
  rw [← UInt8.toNat_inj, UInt8.toNat_ofNat', UInt8.toNat_ofNat', Nat.mod_eq_of_lt hm,
    Nat.mod_eq_of_lt hn]

/-- Longer encodings begin with greater bytes, and those of one length hold the digits in order. -/
theorem below_encoding {c d : Char} (h : c < d) :
    Below (String.utf8EncodeChar c) (String.utf8EncodeChar d) := by
  have hlt : c.val.toNat < d.val.toNat := h
  have hd : d.val.toNat < 0x110000 := by
    rcases d.valid with hv | ⟨-, hv⟩
    · exact Nat.lt_trans hv (by decide)
    · exact hv
  unfold String.utf8EncodeChar
  generalize c.val.toNat = m at hlt
  generalize d.val.toNat = n at hlt hd
  -- The digits are those of base 64.
  have h64 (k : Nat) : k / 64 / 64 = k / 4096 := Nat.div_div_eq_div_mul ..
  have h4096 (k : Nat) : k / 4096 / 64 = k / 262144 := Nat.div_div_eq_div_mul ..
  have hm := h64 m
  have hn := h64 n
  have hm' := h4096 m
  have hn' := h4096 n
  dsimp only
  split_ifs <;>
    simp (disch := omega) only [below_cons, not_below_nil, ofNat_lt_iff, ofNat_eq_iff,
      Nat.mod_eq_of_lt, and_false, or_false] <;>
    omega

theorem flatMap_lt {cs ds : List Char} (h : cs < ds) :
    cs.flatMap String.utf8EncodeChar < ds.flatMap String.utf8EncodeChar := by
  induction h with
  | @nil d ds =>
      obtain ⟨y, ys, hy⟩ := List.exists_cons_of_ne_nil (String.utf8EncodeChar_ne_nil (c := d))
      rw [List.flatMap_nil, List.flatMap_cons, hy]
      exact List.nil_lt_cons ..
  | rel h => exact (below_encoding h).append_lt _ _
  | @cons c cs ds _ ih =>
      rw [List.flatMap_cons, List.flatMap_cons]
      exact List.append_left_lt ih

end Encoding

def bytes (s : String) : List UInt8 := s.toUTF8.data.toList

theorem bytes_eq (s : String) : bytes s = s.toList.flatMap String.utf8EncodeChar := by
  rw [bytes, String.toUTF8_eq_toByteArray, ← String.utf8Encode_toList, List.utf8Encode,
    List.toList_data_toByteArray]

theorem bytes_lt_iff {s t : String} : bytes s < bytes t ↔ s < t := by
  have hmono {s t : String} (h : s < t) : bytes s < bytes t := by
    rw [bytes_eq, bytes_eq]
    exact flatMap_lt (String.lt_iff.mp h)
  refine ⟨fun h => ?_, hmono⟩
  rcases lt_trichotomy s t with hlt | rfl | hgt
  · exact hlt
  · exact absurd h (List.lt_irrefl _)
  · exact absurd h (List.lt_asymm (hmono hgt))

end TableQuery.Text
