import Mathlib.Data.List.TakeWhile
import TableQuery.Decimal.Reading

namespace TableQuery.Decimal

/-- One digit at least, and nothing else. -/
structure Whole (cs : List Char) : Prop where
  ne_nil : cs ≠ []
  isDigit : ∀ c ∈ cs, c.isDigit = true

/-- An integer in decimal: digits, zeros in front or not, behind a sign or without one. -/
inductive Denotes : List Char → Int → Prop
  | plain {cs : List Char} (h : Whole cs) : Denotes cs (Nat.ofDigitChars 10 cs 0)
  | plus {cs : List Char} (h : Whole cs) : Denotes ('+' :: cs) (Nat.ofDigitChars 10 cs 0)
  | minus {cs : List Char} (h : Whole cs) : Denotes ('-' :: cs) (-(Nat.ofDigitChars 10 cs 0 : Nat))

theorem Whole.not_mem {cs : List Char} (h : Whole cs) {c : Char} (hc : c.isDigit = false) :
    c ∉ cs := by
  intro hm
  rw [h.isDigit c hm] at hc
  cases hc

theorem magnitudeOf_eq_ofDigitChars (cs : List Char) :
    magnitudeOf cs = Nat.ofDigitChars 10 cs 0 := by
  simp only [magnitudeOf, Nat.ofDigitChars, digitValue, Nat.mul_comm]

section Denotes

variable {cs text : List Char} {m n : Int}

theorem denotes_plus_iff : Denotes ('+' :: cs) n ↔ Whole cs ∧ Nat.ofDigitChars 10 cs 0 = n := by
  constructor
  · rintro (h | h)
    · exact absurd List.mem_cons_self (h.not_mem rfl)
    · exact ⟨h, rfl⟩
  · rintro ⟨h, rfl⟩
    exact .plus h

theorem denotes_minus_iff :
    Denotes ('-' :: cs) n ↔ Whole cs ∧ -(Nat.ofDigitChars 10 cs 0 : Int) = n := by
  constructor
  · rintro (h | _ | h)
    · exact absurd List.mem_cons_self (h.not_mem rfl)
    · exact ⟨h, rfl⟩
  · rintro ⟨h, rfl⟩
    exact .minus h

theorem denotes_plain_iff (hplus : ∀ ds, text ≠ '+' :: ds) (hminus : ∀ ds, text ≠ '-' :: ds) :
    Denotes text n ↔ Whole text ∧ Nat.ofDigitChars 10 text 0 = n := by
  constructor
  · rintro (h | h | h)
    · exact ⟨h, rfl⟩
    · exact absurd rfl (hplus _)
    · exact absurd rfl (hminus _)
  · rintro ⟨h, rfl⟩
    exact .plain h

theorem Denotes.unique (hm : Denotes text m) (hn : Denotes text n) : m = n := by
  cases hm with
  | plain h =>
      have hsign {c : Char} (hc : c.isDigit = false) (ds : List Char) : text ≠ c :: ds := by
        rintro rfl
        exact h.not_mem hc List.mem_cons_self
      exact ((denotes_plain_iff (hsign rfl) (hsign rfl)).mp hn).2
  | plus h => exact (denotes_plus_iff.mp hn).2
  | minus h => exact (denotes_minus_iff.mp hn).2

theorem Denotes.not_mem (h : Denotes text n) {c : Char} (hc : c.isDigit = false) (hplus : c ≠ '+')
    (hminus : c ≠ '-') : c ∉ text := by
  cases h with
  | plain h => exact h.not_mem hc
  | plus h => exact List.not_mem_cons_of_ne_of_not_mem hplus (h.not_mem hc)
  | minus h => exact List.not_mem_cons_of_ne_of_not_mem hminus (h.not_mem hc)

theorem Denotes.head?_ne_minus (h : Denotes text n) (hn : 0 < n) : text.head? ≠ some '-' := by
  intro hhead
  obtain ⟨cs, rfl⟩ := List.head?_eq_some_iff.mp hhead
  have hvalue := (denotes_minus_iff.mp h).2
  omega

theorem whole_zeros_append (zeros k : Nat) :
    Whole (List.replicate zeros '0' ++ Nat.toDigits 10 k) where
  ne_nil he := Nat.toDigits_ne_nil (List.append_eq_nil_iff.mp he).2
  isDigit c hc := by
    rcases List.mem_append.mp hc with hc | hc
    · rw [List.eq_of_mem_replicate hc]
      rfl
    · exact Nat.isDigit_of_mem_toDigits (by decide) (by decide) hc

theorem ofDigitChars_zeros_append (zeros k : Nat) :
    Nat.ofDigitChars 10 (List.replicate zeros '0' ++ Nat.toDigits 10 k) 0 = k := by
  rw [Nat.ofDigitChars_append, Nat.ofDigitChars_replicate_zero, Nat.mul_zero,
    Nat.ofDigitChars_ten_toDigits]

theorem denotes_zeros_repr (zeros : Nat) (h : 0 ≤ n) :
    Denotes (List.replicate zeros '0' ++ n.repr.toList) n := by
  obtain ⟨k, rfl⟩ := Int.eq_ofNat_of_zero_le h
  have hdigits := Denotes.plain (whole_zeros_append zeros k)
  rw [ofDigitChars_zeros_append] at hdigits
  rwa [Int.repr_eq_if, if_pos h, Int.toNat_natCast, Nat.toList_repr]

theorem denotes_repr (n : Int) : Denotes n.repr.toList n := by
  by_cases h : 0 ≤ n
  · exact denotes_zeros_repr 0 h
  · have hsign : "-".toList = ['-'] := rfl
    rw [Int.repr_eq_if, if_neg h, String.toList_append, Nat.toList_repr, hsign,
      List.singleton_append, denotes_minus_iff, Nat.ofDigitChars_ten_toDigits]
    exact ⟨whole_zeros_append 0 _, by omega⟩

end Denotes

section Reading

variable {bound : Nat} {overflow : IntegerError} {cs text : List Char} {n : Int}

theorem le_ofDigitChars (cs : List Char) (m : Nat) : m ≤ Nat.ofDigitChars 10 cs m := by
  induction cs generalizing m with
  | nil => exact Nat.le_refl m
  | cons c cs ih =>
      rw [Nat.ofDigitChars_cons]
      exact Nat.le_trans (by omega) (ih _)

/-- The digits are read up to the bound. Those that pass it do not come back below it. -/
theorem readMagnitude_eq_ok_iff {m n : Nat} (hm : m ≤ bound) :
    readMagnitude bound overflow m cs = .ok n ↔ (∀ c ∈ cs, c.isDigit = true) ∧
      Nat.ofDigitChars 10 cs m ≤ bound ∧ Nat.ofDigitChars 10 cs m = n := by
  fun_induction readMagnitude bound overflow m cs with
  | case1 m => simp [hm]
  | case2 m c rest hc =>
      simp only [Bool.not_eq_true'] at hc
      simp [hc]
  | case3 m c rest hc hover =>
      have hle := le_ofDigitChars rest (10 * m + digitValue c)
      rw [Nat.ofDigitChars_cons, ← digitValue]
      refine iff_of_false nofun ?_
      omega
  | case4 m c rest hc hbound ih =>
      simp only [Bool.not_eq_true', Bool.not_eq_false] at hc
      rw [ih (Nat.le_of_not_lt hbound), Nat.ofDigitChars_cons, ← digitValue, Nat.mul_comm m,
        List.forall_mem_cons, and_iff_right hc]

theorem readDigits_eq_ok_iff {f : Nat → Int} :
    (if cs.isEmpty then .error .invalidDigit
      else (readMagnitude bound overflow 0 cs).map f : Except IntegerError Int) = .ok n ↔
      Whole cs ∧ Nat.ofDigitChars 10 cs 0 ≤ bound ∧ f (Nat.ofDigitChars 10 cs 0) = n := by
  have hread (k : Nat) : readMagnitude bound overflow 0 cs = .ok k ↔ _ :=
    readMagnitude_eq_ok_iff (Nat.zero_le bound)
  constructor
  · intro h
    split at h
    · cases h
    · next hne =>
        cases hm : readMagnitude bound overflow 0 cs with
        | error e =>
            rw [hm] at h
            cases h
        | ok k =>
            rw [hm] at h
            obtain ⟨hdigits, hbound, rfl⟩ := (hread k).mp hm
            exact ⟨⟨by simpa using hne, hdigits⟩, hbound, Except.ok.inj h⟩
  · rintro ⟨hcs, hbound, rfl⟩
    rw [if_neg (by simpa using hcs.ne_nil), (hread _).mpr ⟨hcs.isDigit, hbound, rfl⟩]
    rfl

theorem readPositive_eq_ok_iff (least : Int) {greatest : Int} :
    (if cs.isEmpty then .error .invalidDigit
      else (readMagnitude greatest.toNat overflow 0 cs).map Int.ofNat :
        Except IntegerError Int) = .ok n ↔
      (Whole cs ∧ (Nat.ofDigitChars 10 cs 0 : Int) = n) ∧
        -(least.natAbs : Int) ≤ n ∧ n ≤ greatest.toNat := by
  rw [readDigits_eq_ok_iff, Int.ofNat_eq_natCast]
  constructor
  · rintro ⟨hcs, hbound, rfl⟩
    exact ⟨⟨hcs, rfl⟩, by omega, Int.ofNat_le.mpr hbound⟩
  · rintro ⟨⟨hcs, rfl⟩, -, hbound⟩
    exact ⟨hcs, Int.ofNat_le.mp hbound, rfl⟩

theorem readNegative_eq_ok_iff (greatest : Int) {least : Int} :
    (if cs.isEmpty then .error .invalidDigit
      else (do let k ← readMagnitude least.natAbs overflow 0 cs; pure (k : Int)).map fun k => -k :
        Except IntegerError Int) = .ok n ↔
      (Whole cs ∧ -(Nat.ofDigitChars 10 cs 0 : Int) = n) ∧
        -(least.natAbs : Int) ≤ n ∧ n ≤ greatest.toNat := by
  have hmap (read : Except IntegerError Nat) :
      (do let k ← read; pure (k : Int)).map (fun k => -k) = read.map fun k : Nat => -(k : Int) := by
    cases read <;> rfl
  rw [hmap, readDigits_eq_ok_iff]
  constructor
  · rintro ⟨hcs, hbound, rfl⟩
    exact ⟨⟨hcs, rfl⟩, by omega, by omega⟩
  · rintro ⟨⟨hcs, rfl⟩, hbound, -⟩
    exact ⟨hcs, by omega, rfl⟩

theorem IntegerRange.read_eq_ok_iff {r : IntegerRange} :
    r.read text = .ok n ↔ Denotes text n ∧ -(r.least.natAbs : Int) ≤ n ∧ n ≤ r.greatest.toNat ∧
      (r.least = 0 → text.head? ≠ some '-') := by
  unfold IntegerRange.read
  dsimp only
  split
  · refine iff_of_false nofun ?_
    rintro ⟨h, -⟩
    cases h with
    | plain h => exact h.ne_nil rfl
  · next cs =>
      rw [readPositive_eq_ok_iff r.least, denotes_plus_iff]
      simp
  · next cs =>
      rw [denotes_minus_iff]
      by_cases hsign : r.least = 0
      · simp [hsign]
      · have he : (decide (r.least = 0) || cs.isEmpty) = cs.isEmpty := by simp [hsign]
        rw [he, readNegative_eq_ok_iff r.greatest]
        simp [hsign]
  · next hne hplus hminus =>
      have hhead : text.head? ≠ some '-' := by
        intro h
        obtain ⟨ds, rfl⟩ := List.head?_eq_some_iff.mp h
        exact hminus ds rfl
      rw [readPositive_eq_ok_iff r.least, denotes_plain_iff hplus hminus]
      simp [hhead]

end Reading

theorem toLower_of_isDigit {c : Char} (h : c.isDigit = true) : c.toLower = c := by
  have hdigit : c.val ≤ 57 := of_decide_eq_true (Bool.and_eq_true_iff.mp h).2
  refine dif_neg fun hupper => ?_
  exact absurd (UInt32.le_trans hupper.1 hdigit) (by decide)

section Whole

variable {cs : List Char} (h : Whole cs)

include h

theorem Whole.exists_cons : ∃ c rest, cs = c :: rest ∧ c.isDigit = true := by
  obtain ⟨c, rest, rfl⟩ := List.exists_cons_of_ne_nil h.ne_nil
  exact ⟨c, rest, rfl, h.isDigit c List.mem_cons_self⟩

theorem Whole.isSome_readParts : (readParts cs).isSome := by
  have htake : cs.takeWhile Char.isDigit = cs := List.takeWhile_eq_self_iff.mpr h.isDigit
  have hdrop : cs.dropWhile Char.isDigit = [] := List.dropWhile_eq_nil_iff.mpr h.isDigit
  simp [readParts, htake, hdrop, h.ne_nil, readExponent]

theorem Whole.readUnsigned_eq : readUnsigned cs = (readParts cs).map Parts.toFloat := by
  obtain ⟨c, rest, rfl, hc⟩ := h.exists_cons
  have hword {d : Char} {ds : List Char} (he : (c :: rest).map Char.toLower = d :: ds) :
      d.isDigit = true := by
    rw [List.map_cons, toLower_of_isDigit hc, List.cons.injEq] at he
    exact he.1 ▸ hc
  unfold readUnsigned
  split
  · next he => exact absurd (hword he) (by decide)
  · next he => exact absurd (hword he) (by decide)
  · next he => exact absurd (hword he) (by decide)
  · rfl

theorem Whole.isSome_readUnsigned : (readUnsigned cs).isSome := by
  rw [h.readUnsigned_eq, Option.isSome_map]
  exact h.isSome_readParts

theorem Whole.readFloat_eq : readFloat cs = readUnsigned cs := by
  obtain ⟨c, rest, rfl, hc⟩ := h.exists_cons
  unfold readFloat
  split
  · next he => exact absurd ((List.cons.inj he).1 ▸ hc) (by decide)
  · next he => exact absurd ((List.cons.inj he).1 ▸ hc) (by decide)
  · rfl

end Whole

theorem isSome_readFloat_of_read {r : IntegerRange} {text : List Char} {n : Int}
    (h : r.read text = .ok n) : (readFloat text).isSome := by
  obtain ⟨hdenotes, -⟩ := IntegerRange.read_eq_ok_iff.mp h
  cases hdenotes with
  | plain hcs =>
      rw [hcs.readFloat_eq]
      exact hcs.isSome_readUnsigned
  | plus hcs => exact hcs.isSome_readUnsigned
  | @minus cs hcs =>
      change ((readUnsigned cs).map _).isSome = true
      rw [Option.isSome_map]
      exact hcs.isSome_readUnsigned

end TableQuery.Decimal
