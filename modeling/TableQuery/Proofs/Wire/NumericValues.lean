import Mathlib.Algebra.BigOperators.Intervals
import Mathlib.Data.List.GetD
import Mathlib.Data.Nat.Digits.Defs
import TableQuery.Proofs.Rows.ExactArithmetic
import TableQuery.Wire.Numeric

namespace TableQuery.Wire.Numeric

section Powers

theorem powerFrom_eq (base result : ℚ) (exponent : Nat) :
    powerFrom base result exponent = result * base ^ exponent := by
  fun_induction powerFrom base result exponent with
  | case1 base result exponent result' h =>
      obtain rfl | rfl : exponent = 0 ∨ exponent = 1 := by omega
      · simp [result']
      · simp [result']
  | case2 base result exponent result' h ih =>
      have hresult : result' = result * base ^ (exponent % 2) := by
        obtain he | he := Nat.mod_two_eq_zero_or_one exponent <;> simp [result', he]
      calc powerFrom (base * base) result' (exponent / 2)
          = result * base ^ (exponent % 2) * (base ^ 2) ^ (exponent / 2) := by
            rw [ih, hresult, pow_two]
        _ = result * base ^ (exponent % 2 + 2 * (exponent / 2)) := by
            rw [← pow_mul, mul_assoc, ← pow_add]
        _ = result * base ^ exponent := by rw [Nat.mod_add_div]

theorem power_eq (base : ℚ) (exponent : Int) : power base exponent = base ^ exponent := by
  have hone : (Arithmetic.ofNat 1 : ℚ) = 1 := rfl
  rw [power, powerFrom_eq, hone, one_mul]
  split
  · next hneg =>
      have he : exponent = -(exponent.natAbs : Int) := by omega
      conv_rhs => rw [he]
      rw [zpow_neg, zpow_natCast]
      exact one_div _
  · next hneg =>
      have he : exponent = (exponent.natAbs : Int) := by omega
      conv_rhs => rw [he]
      rw [zpow_natCast]

end Powers

def wordAt (bytes : List UInt8) (place : Nat) : Nat :=
  word (bytes.getD place 0) (bytes.getD (place + 1) 0)

def announced (bytes : List UInt8) : Nat := (signed (wordAt bytes 0)).toNat

def weight (bytes : List UInt8) : Int := signed (wordAt bytes 2)

def signWord (bytes : List UInt8) : Nat := wordAt bytes 4

def digit (bytes : List UInt8) (i : Nat) : Int := signed (wordAt bytes (8 + 2 * i))

def Truncated (bytes : List UInt8) : Prop :=
  bytes.length < 6 ∨
    signWord bytes ≠ notANumberSign ∧ 0 < announced bytes ∧ bytes.length < 8 + 2 * announced bytes

instance (bytes : List UInt8) : Decidable (Truncated bytes) :=
  inferInstanceAs (Decidable (_ ∨ _))

def magnitude (bytes : List UInt8) : ℚ :=
  ∑ i ∈ Finset.range (announced bytes), digit bytes i * 10000 ^ (weight bytes - i)

section Words

variable {bytes : List UInt8}

theorem wordAt_drop (bytes : List UInt8) (n place : Nat) :
    wordAt (bytes.drop n) place = wordAt bytes (n + place) := by
  simp [wordAt, Nat.add_assoc]

theorem words_eq (count : Nat) (bytes : List UInt8) : words count bytes =
    if 2 * count ≤ bytes.length then .ok ((List.range count).map fun i => wordAt bytes (2 * i))
    else .error .truncated := by
  induction count generalizing bytes with
  | zero => simp [words]
  | succ count ih =>
      match bytes with
      | [] => simp [words]
      | [b] =>
          rw [words, if_neg (by rw [List.length_singleton]; omega)]
          simp
      | high :: low :: rest =>
          have hnext (i : Nat) :
              wordAt (high :: low :: rest) (2 * (i + 1)) = wordAt rest (2 * i) := by
            simp [wordAt, Nat.mul_add]
          have hlength : 2 * (count + 1) ≤ (high :: low :: rest).length ↔
              2 * count ≤ rest.length := by
            simp only [List.length_cons]
            omega
          rw [words, ih]
          simp only [hlength, List.range_succ_eq_map, List.map_cons, List.map_map]
          split
          · simp only [Except.map, Function.comp_def, Nat.succ_eq_add_one, hnext]
            rfl
          · rfl

theorem ofInt_eq (n : Int) : (Arithmetic.ofInt n : ℚ) = n := by
  have hnat (k : Nat) : (Arithmetic.ofNat k : ℚ) = k := rfl
  rw [Arithmetic.ofInt, hnat, Nat.cast_natAbs]
  split
  · next hneg =>
      rw [abs_of_neg hneg, Int.cast_neg]
      exact neg_neg _
  · next hneg => rw [abs_of_nonneg (Int.not_lt.mp hneg)]

theorem total_append (digits : List Int) (d weight : Int) :
    (total (digits ++ [d]) weight : ℚ) =
      total digits weight + d * 10000 ^ (weight - digits.length) := by
  have hbase : (Arithmetic.ofNat 10000 : ℚ) = 10000 := rfl
  rw [total, List.zipIdx_append, List.map_append, List.foldl_append, ← total]
  simp [ofInt_eq, power_eq, hbase]

theorem total_eq (count : Nat) (f : Nat → Int) (weight : Int) :
    total ((List.range count).map f) weight =
      ∑ i ∈ Finset.range count, (f i : ℚ) * 10000 ^ (weight - i) := by
  induction count with
  | zero => rfl
  | succ count ih =>
      rw [List.range_succ, List.map_append, List.map_singleton, total_append, ih,
        Finset.sum_range_succ, List.length_map, List.length_range]

theorem exists_header (h : 6 ≤ bytes.length) :
    ∃ c₁ c₂ w₁ w₂ s₁ s₂ rest, bytes = c₁ :: c₂ :: w₁ :: w₂ :: s₁ :: s₂ :: rest := by
  match bytes, h with
  | c₁ :: c₂ :: w₁ :: w₂ :: s₁ :: s₂ :: rest, _ => exact ⟨c₁, c₂, w₁, w₂, s₁, s₂, rest, rfl⟩

theorem decode_of_short (h : bytes.length < 6) :
    (decode bytes : Except NumericError (Numeric ℚ)) = .error .truncated := by
  unfold decode
  split
  · simp only [List.length_cons] at h
    omega
  · rfl

theorem decode_of_header (h : 6 ≤ bytes.length) :
    (decode bytes : Except NumericError (Numeric ℚ)) =
      if signWord bytes = notANumberSign then .ok .notANumber
      else (words (announced bytes) (bytes.drop 8)).map fun digits =>
        let x := total (digits.map signed) (weight bytes)
        .number (if signWord bytes = negativeSign then -x else x) := by
  obtain ⟨c₁, c₂, w₁, w₂, s₁, s₂, rest, rfl⟩ := exists_header h
  have hcount : announced (c₁ :: c₂ :: w₁ :: w₂ :: s₁ :: s₂ :: rest) =
      (signed (word c₁ c₂)).toNat := rfl
  have hweight : weight (c₁ :: c₂ :: w₁ :: w₂ :: s₁ :: s₂ :: rest) = signed (word w₁ w₂) := rfl
  have hsign : signWord (c₁ :: c₂ :: w₁ :: w₂ :: s₁ :: s₂ :: rest) = word s₁ s₂ := rfl
  have hdrop : (c₁ :: c₂ :: w₁ :: w₂ :: s₁ :: s₂ :: rest).drop 8 = rest.drop scaleWidth := rfl
  rw [decode, hcount, hweight, hsign, hdrop]
  split
  · rfl
  · cases words (signed (word c₁ c₂)).toNat (rest.drop scaleWidth) <;> rfl

theorem truncated_iff (hlength : 6 ≤ bytes.length) (hsign : signWord bytes ≠ notANumberSign) :
    Truncated bytes ↔ ¬2 * announced bytes ≤ (bytes.drop 8).length := by
  rw [Truncated, List.length_drop]
  generalize announced bytes = count
  simp only [hsign, ne_eq, not_false_eq_true, true_and]
  omega

theorem decode_eq (bytes : List UInt8) : (decode bytes : Except NumericError (Numeric ℚ)) =
    if Truncated bytes then .error .truncated
    else if signWord bytes = notANumberSign then .ok .notANumber
    else .ok (.number
      (if signWord bytes = negativeSign then -magnitude bytes else magnitude bytes)) := by
  by_cases hshort : bytes.length < 6
  · rw [decode_of_short hshort, if_pos (.inl hshort)]
  · have hlength := Nat.le_of_not_lt hshort
    rw [decode_of_header hlength, words_eq]
    by_cases hsign : signWord bytes = notANumberSign
    · have hwhole : ¬Truncated bytes := by
        rintro (h | h)
        · exact hshort h
        · exact h.1 hsign
      rw [if_pos hsign, if_neg hwhole, if_pos hsign]
    · have hsum : total (((List.range (announced bytes)).map
          fun i => wordAt (bytes.drop 8) (2 * i)).map signed) (weight bytes) = magnitude bytes := by
        have hdigit : (signed ∘ fun i => wordAt bytes (8 + 2 * i)) = digit bytes :=
          funext fun i => by rw [Function.comp_apply, digit]
        simp only [wordAt_drop, List.map_map]
        rw [hdigit, total_eq, magnitude]
      rw [if_neg hsign, if_neg hsign]
      by_cases hlong : 2 * announced bytes ≤ (bytes.drop 8).length
      · have hwhole : ¬Truncated bytes := by simpa only [truncated_iff hlength hsign, not_not]
        rw [if_pos hlong, if_neg hwhole, Except.map]
        simp only [hsum]
      · have hcut : Truncated bytes := by simpa only [truncated_iff hlength hsign]
        rw [if_neg hlong, if_pos hcut, Except.map]

end Words

/-- A number as the server writes it: the weight of its first digit, a display scale and digits to
the base 10000. -/
structure Written where
  negative : Bool
  weight : Int
  scale : Nat
  digits : List Nat
  weight_bounds : -32768 ≤ weight ∧ weight < 32768
  scale_lt : scale < 65536
  count_lt : digits.length < 32768
  digit_lt : ∀ d ∈ digits, d < 10000

def wordBytes (n : Nat) : List UInt8 := [UInt8.ofNat (n / 256), UInt8.ofNat (n % 256)]

namespace Written

def bytes (v : Written) : List UInt8 :=
  wordBytes v.digits.length ++ (wordBytes (v.weight % 65536).toNat ++
    (wordBytes (if v.negative then negativeSign else 0) ++ (wordBytes v.scale ++
      v.digits.flatMap wordBytes)))

/-- The digits as one whole number, the last of them in its place. -/
def value (v : Written) : ℚ :=
  (if v.negative then -1 else 1) * (Nat.ofDigits 10000 v.digits.reverse : Nat) *
    10000 ^ (v.weight + 1 - v.digits.length)

end Written

section Written

theorem wordAt_wordBytes {n : Nat} (h : n < 65536) (rest : List UInt8) :
    wordAt (wordBytes n ++ rest) 0 = n := by
  have hhigh : (UInt8.ofNat (n / 256)).toNat = n / 256 := by
    rw [UInt8.toNat_ofNat', Nat.mod_eq_of_lt (by omega)]
  have hlow : (UInt8.ofNat (n % 256)).toNat = n % 256 := by
    rw [UInt8.toNat_ofNat', Nat.mod_mod]
  simp only [wordAt, wordBytes, word, List.cons_append, List.getD_cons_zero, List.getD_cons_succ,
    hhigh, hlow]
  omega

theorem wordAt_wordBytes_append (n place : Nat) (rest : List UInt8) :
    wordAt (wordBytes n ++ rest) (place + 2) = wordAt rest place := by
  simp [wordAt, wordBytes]

theorem wordAt_flatMap {digits : List Nat} (h : ∀ d ∈ digits, d < 10000) {i : Nat}
    (hi : i < digits.length) : wordAt (digits.flatMap wordBytes) (2 * i) = digits.getD i 0 := by
  induction digits generalizing i with
  | nil => cases hi
  | cons d digits ih =>
      obtain ⟨hd, hdigits⟩ := List.forall_mem_cons.mp h
      rw [List.flatMap_cons]
      cases i with
      | zero => exact wordAt_wordBytes (by omega) _
      | succ i =>
          rw [Nat.mul_succ, wordAt_wordBytes_append, ih hdigits (Nat.lt_of_succ_lt_succ hi),
            List.getD_cons_succ]

theorem signed_of_lt {n : Nat} (h : n < 32768) : signed n = n := by
  unfold signed
  exact Int.bmod_eq_of_le (by omega) (by omega)

theorem signed_emod {n : Int} (h : -32768 ≤ n) (h' : n < 32768) :
    signed (n % 65536).toNat = n := by
  have hword : ((n % 65536).toNat : Int) = n % (65536 : Nat) :=
    Int.toNat_of_nonneg (Int.emod_nonneg n (by decide))
  calc signed (n % 65536).toNat = Int.bmod (n % (65536 : Nat)) 65536 := by
        unfold signed
        exact congrArg (Int.bmod · 65536) hword
    _ = Int.bmod n 65536 := Int.emod_bmod n 65536
    _ = n := Int.bmod_eq_of_le (by omega) (by omega)

/-- Each digit stands for its own power. -/
theorem sum_digits (digits : List Nat) (weight : Int) :
    ∑ i ∈ Finset.range digits.length, ((digits.getD i 0 : Nat) : ℚ) * 10000 ^ (weight - i) =
      (Nat.ofDigits 10000 digits.reverse : Nat) * 10000 ^ (weight + 1 - digits.length) := by
  induction digits using List.reverseRecOn with
  | nil => simp
  | append_singleton digits d ih =>
      have hfront : ∀ i ∈ Finset.range digits.length,
          (((digits ++ [d]).getD i 0 : Nat) : ℚ) * 10000 ^ (weight - i) =
            ((digits.getD i 0 : Nat) : ℚ) * 10000 ^ (weight - i) := by
        intro i hi
        rw [List.getD_append _ _ _ _ (Finset.mem_range.mp hi)]
      have hlast : (digits ++ [d]).getD digits.length 0 = d := by simp
      have hpower : (10000 : ℚ) ^ (weight + 1 - digits.length) =
          10000 * 10000 ^ (weight - digits.length) := by
        rw [← zpow_one_add₀ (by norm_num)]
        congr 1
        omega
      rw [List.length_append, List.length_singleton, Finset.sum_range_succ,
        Finset.sum_congr rfl hfront, ih, hlast, List.reverse_append, List.reverse_singleton,
        List.singleton_append, Nat.ofDigits_cons, hpower]
      have hplace : weight + 1 - ((digits.length + 1 : Nat) : Int) = weight - digits.length := by
        omega
      rw [hplace]
      push_cast
      ring

variable (v : Written)

theorem announced_bytes : announced v.bytes = v.digits.length := by
  have hcount := v.count_lt
  rw [announced, Written.bytes, wordAt_wordBytes (by omega), signed_of_lt hcount]
  rfl

theorem weight_bytes : weight v.bytes = v.weight := by
  have hbounds := v.weight_bounds
  rw [weight, Written.bytes, wordAt_wordBytes_append _ 0, wordAt_wordBytes (by omega),
    signed_emod hbounds.1 hbounds.2]

theorem signWord_bytes : signWord v.bytes = if v.negative then negativeSign else 0 := by
  rw [signWord, Written.bytes, wordAt_wordBytes_append _ 2, wordAt_wordBytes_append _ 0,
    wordAt_wordBytes]
  split <;> decide

theorem digit_bytes {i : Nat} (hi : i < v.digits.length) :
    digit v.bytes i = (v.digits.getD i 0 : Nat) := by
  have hplace : 8 + 2 * i = 2 * i + 2 + 2 + 2 + 2 := by omega
  have hdigit : v.digits.getD i 0 < 10000 := by
    rw [List.getD_eq_getElem _ _ hi]
    exact v.digit_lt _ (List.getElem_mem hi)
  rw [digit, Written.bytes, hplace, wordAt_wordBytes_append, wordAt_wordBytes_append,
    wordAt_wordBytes_append, wordAt_wordBytes_append, wordAt_flatMap v.digit_lt hi,
    signed_of_lt (by omega)]

theorem length_bytes : v.bytes.length = 8 + 2 * v.digits.length := by
  simp [Written.bytes, wordBytes, List.length_flatMap]
  omega

theorem magnitude_bytes : magnitude v.bytes =
    (Nat.ofDigits 10000 v.digits.reverse : Nat) * 10000 ^ (v.weight + 1 - v.digits.length) := by
  rw [magnitude, announced_bytes, weight_bytes, ← sum_digits]
  refine Finset.sum_congr rfl fun i hi => ?_
  rw [digit_bytes v (Finset.mem_range.mp hi), Int.cast_natCast]

theorem decode_bytes : decode v.bytes = .ok (.number v.value) := by
  have hwhole : ¬Truncated v.bytes := by
    rw [Truncated, length_bytes, announced_bytes]
    omega
  rw [decode_eq, if_neg hwhole, signWord_bytes, magnitude_bytes, Written.value]
  cases v.negative with
  | false => simp [notANumberSign, negativeSign]
  | true => simp [notANumberSign, negativeSign]

end Written

def specialSigns : List Nat := [notANumberSign, 0xD000, 0xF000]

/-- Short texts are refused, and signed numbers are read as what they stand for. Among the special
values not-a-number alone is told from a number. -/
theorem decode_faithful_iff (bytes : List UInt8) :
    let read : Except NumericError (Numeric ℚ) := decode bytes
    (read = .error .truncated ↔ Truncated bytes) ∧
      (¬Truncated bytes → signWord bytes = 0 → read = .ok (.number (magnitude bytes))) ∧
      (¬Truncated bytes → signWord bytes = negativeSign →
        read = .ok (.number (-magnitude bytes))) ∧
      (∀ v : Written, decode v.bytes = .ok (.number v.value)) ∧
      (signWord bytes ∈ specialSigns →
        ((∀ x, read ≠ .ok (.number x)) ↔ Truncated bytes ∨ signWord bytes = notANumberSign)) := by
  intro read
  have hread : read = _ := decode_eq bytes
  refine ⟨?_, ?_, ?_, decode_bytes, ?_⟩
  · rw [hread]
    by_cases hcut : Truncated bytes
    · simp [hcut]
    · by_cases hsign : signWord bytes = notANumberSign <;> simp [hcut, hsign]
  · intro hwhole hsign
    rw [hread, if_neg hwhole, hsign, if_neg (by decide), if_neg (by decide)]
  · intro hwhole hsign
    rw [hread, if_neg hwhole, hsign, if_neg (by decide), if_pos rfl]
  · intro hspecial
    rw [hread]
    by_cases hcut : Truncated bytes
    · simp [hcut]
    · by_cases hsign : signWord bytes = notANumberSign <;> simp [hcut, hsign]

/-- The server's bytes for infinity, which are read as zero. -/
theorem infinity_read_as_zero :
    let bytes : List UInt8 := [0, 0, 0, 0, 0xD0, 0, 0, 0x20]
    signWord bytes = 0xD000 ∧ signWord bytes ∈ specialSigns ∧
      decode bytes = .ok (.number (0 : ℚ)) := by
  intro bytes
  have hcount : announced bytes = 0 := by decide
  have hsign : signWord bytes = 0xD000 := by decide
  have hwhole : ¬Truncated bytes := by decide +kernel
  have hzero : magnitude bytes = 0 := by rw [magnitude, hcount, Finset.sum_range_zero]
  refine ⟨hsign, by rw [hsign]; decide, ?_⟩
  rw [decode_eq, hzero, hsign, if_neg hwhole]
  simp [notANumberSign, negativeSign]

end TableQuery.Wire.Numeric
