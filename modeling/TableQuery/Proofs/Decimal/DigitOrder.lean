import Mathlib.Data.Char
import Mathlib.Tactic.Ring
import TableQuery.Decimal.Reading

namespace TableQuery.Decimal

section Digits

variable {c d : Char} {cs ds : List Char}

theorem toNat_of_isDigit (h : c.isDigit = true) : 48 ≤ c.toNat ∧ c.toNat ≤ 57 := by
  simpa [Char.isDigit, UInt32.le_iff_toNat_le] using h

theorem lt_iff_of_isDigit (hc : c.isDigit = true) (hd : d.isDigit = true) :
    c < d ↔ digitValue c < digitValue d := by
  have hc := toNat_of_isDigit hc
  have hd := toNat_of_isDigit hd
  have hzero : '0'.toNat = 48 := rfl
  have hlt : c < d ↔ c.toNat < d.toNat := Iff.rfl
  rw [hlt, digitValue, digitValue, hzero]
  omega

theorem eq_iff_of_isDigit (hc : c.isDigit = true) (hd : d.isDigit = true) :
    c = d ↔ digitValue c = digitValue d := by
  rw [le_antisymm_iff, ← not_lt, ← not_lt, lt_iff_of_isDigit hc hd, lt_iff_of_isDigit hd hc]
  omega

theorem plus_lt_of_isDigit (h : c.isDigit = true) : '+' < c :=
  Nat.lt_of_lt_of_le (by decide : '+'.toNat < 48) (toNat_of_isDigit h).1

theorem digitValue_lt (h : c.isDigit = true) : digitValue c < 10 := by
  have hc := toNat_of_isDigit h
  have hzero : '0'.toNat = 48 := rfl
  rw [digitValue, hzero]
  omega

theorem magnitudeOf_cons (c : Char) (cs : List Char) :
    magnitudeOf (c :: cs) = digitValue c * 10 ^ cs.length + magnitudeOf cs := by
  have hfold (n : Nat) : cs.foldl (fun n c => n * 10 + digitValue c) n =
      n * 10 ^ cs.length + magnitudeOf cs := by
    induction cs generalizing n with
    | nil => simp [magnitudeOf]
    | cons d cs ih =>
        rw [magnitudeOf, List.foldl_cons, ih, List.foldl_cons, ih, List.length_cons]
        ring
  simpa [magnitudeOf] using hfold (digitValue c)

theorem magnitudeOf_lt (h : ∀ c ∈ cs, c.isDigit = true) : magnitudeOf cs < 10 ^ cs.length := by
  induction cs with
  | nil => simp [magnitudeOf]
  | cons c cs ih =>
      obtain ⟨hc, hcs⟩ := List.forall_mem_cons.mp h
      have hfirst := Nat.mul_le_mul_right (10 ^ cs.length) (Nat.le_of_lt_succ (digitValue_lt hc))
      have hrest := ih hcs
      rw [magnitudeOf_cons, List.length_cons, Nat.pow_succ]
      omega

theorem magnitudeOf_mul_lt (h : ∀ c ∈ cs, c.isDigit = true) {places : Nat}
    (hplaces : cs.length ≤ places) :
    magnitudeOf cs * 10 ^ (places - cs.length) < 10 ^ places := by
  calc magnitudeOf cs * 10 ^ (places - cs.length)
      < 10 ^ cs.length * 10 ^ (places - cs.length) :=
        Nat.mul_lt_mul_of_pos_right (magnitudeOf_lt h) (Nat.pow_pos (by decide))
    _ = 10 ^ places := by rw [← Nat.pow_add, Nat.add_sub_cancel' hplaces]

theorem magnitudeOf_cons_mul {places : Nat} (hplaces : cs.length ≤ places) :
    magnitudeOf (c :: cs) * 10 ^ (places - cs.length) =
      digitValue c * 10 ^ places + magnitudeOf cs * 10 ^ (places - cs.length) := by
  rw [magnitudeOf_cons, Nat.add_mul, Nat.mul_assoc, ← Nat.pow_add, Nat.add_sub_cancel' hplaces]

theorem mul_add_lt_iff {a b x y unit : Nat} (hx : x < unit) (hy : y < unit) :
    a * unit + x < b * unit + y ↔ a < b ∨ a = b ∧ x < y := by
  rcases lt_trichotomy a b with h | rfl | h
  · have hle := Nat.mul_le_mul_right unit (Nat.succ_le_of_lt h)
    rw [Nat.succ_mul] at hle
    omega
  · omega
  · have hle := Nat.mul_le_mul_right unit (Nat.succ_le_of_lt h)
    rw [Nat.succ_mul] at hle
    omega

theorem mul_add_eq_iff {a b x y unit : Nat} (hx : x < unit) (hy : y < unit) :
    a * unit + x = b * unit + y ↔ a = b ∧ x = y := by
  have hlt := mul_add_lt_iff (a := a) (b := b) hx hy
  have hgt := mul_add_lt_iff (a := b) (b := a) hy hx
  omega

theorem append_lt_append_iff (hlength : cs.length = ds.length)
    (hc : ∀ c ∈ cs, c.isDigit = true) (hd : ∀ d ∈ ds, d.isDigit = true) {xs ys : List Char} :
    cs ++ xs < ds ++ ys ↔ magnitudeOf cs < magnitudeOf ds ∨
      magnitudeOf cs = magnitudeOf ds ∧ xs < ys := by
  induction cs generalizing ds with
  | nil =>
      obtain rfl := List.eq_nil_of_length_eq_zero hlength.symm
      simp
  | cons c cs ih =>
      obtain ⟨d, ds, rfl⟩ := List.exists_cons_of_length_eq_add_one hlength.symm
      obtain ⟨hc, hcs⟩ := List.forall_mem_cons.mp hc
      obtain ⟨hd, hds⟩ := List.forall_mem_cons.mp hd
      have hlength : cs.length = ds.length := Nat.succ_inj.mp hlength
      have hx := magnitudeOf_lt hcs
      have hy := magnitudeOf_lt hds
      rw [← hlength] at hy
      rw [List.cons_append, List.cons_append, List.cons_lt_cons_iff, ih hlength hcs hds,
        magnitudeOf_cons, magnitudeOf_cons, ← hlength, mul_add_lt_iff hx hy, mul_add_eq_iff hx hy,
        lt_iff_of_isDigit hc hd, eq_iff_of_isDigit hc hd]
      tauto

/-- Fractions, as many digits as they may have, stand in the order of their values: what follows
them comes before every digit. -/
theorem append_plus_lt {places : Nat} (hc : ∀ c ∈ cs, c.isDigit = true)
    (hd : ∀ d ∈ ds, d.isDigit = true) (hcs : cs.length ≤ places) (hds : ds.length ≤ places)
    (h : magnitudeOf cs * 10 ^ (places - cs.length) < magnitudeOf ds * 10 ^ (places - ds.length))
    (xs ys : List Char) : cs ++ '+' :: xs < ds ++ '+' :: ys := by
  induction cs generalizing ds places with
  | nil =>
      cases ds with
      | nil => simp [magnitudeOf] at h
      | cons d ds =>
          obtain ⟨hd, -⟩ := List.forall_mem_cons.mp hd
          exact List.cons_lt_cons_iff.mpr (.inl (plus_lt_of_isDigit hd))
  | cons c cs ih =>
      cases ds with
      | nil => simp [magnitudeOf] at h
      | cons d ds =>
          obtain ⟨hc, hctail⟩ := List.forall_mem_cons.mp hc
          obtain ⟨hd, hdtail⟩ := List.forall_mem_cons.mp hd
          obtain ⟨places, rfl⟩ : ∃ p, places = p + 1 :=
            Nat.exists_eq_add_one.mpr (Nat.lt_of_lt_of_le (Nat.succ_pos _) hcs)
          have hclength : cs.length ≤ places := Nat.le_of_succ_le_succ hcs
          have hdlength : ds.length ≤ places := Nat.le_of_succ_le_succ hds
          rw [List.length_cons, List.length_cons, Nat.add_sub_add_right, Nat.add_sub_add_right,
            magnitudeOf_cons_mul hclength, magnitudeOf_cons_mul hdlength,
            mul_add_lt_iff (magnitudeOf_mul_lt hctail hclength)
              (magnitudeOf_mul_lt hdtail hdlength)] at h
          refine List.cons_lt_cons_iff.mpr (h.imp ?_ ?_)
          · exact (lt_iff_of_isDigit hc hd).mpr
          · rintro ⟨hfirst, hrest⟩
            exact ⟨(eq_iff_of_isDigit hc hd).mpr hfirst, ih hctail hdtail hclength hdlength hrest⟩

end Digits
end TableQuery.Decimal
