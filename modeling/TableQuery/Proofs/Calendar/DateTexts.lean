import Mathlib.Data.List.TakeWhile
import TableQuery.Proofs.Calendar.DayCount
import TableQuery.Proofs.Decimal.DigitOrder

namespace TableQuery.Calendar

section Yields

variable {α β ε : Type} {P : β → Prop}

/-- What is read, if anything is read, has the property. -/
inductive Yields (P : β → Prop) : Except ε β → Prop
  | ok {b : β} (h : P b) : Yields P (.ok b)
  | error (e : ε) : Yields P (.error e)

theorem Yields.bind {read : Except ε α} {next : α → Except ε β} (h : ∀ a, Yields P (next a)) :
    Yields P (read >>= next) := by
  cases read with
  | error e => exact .error e
  | ok a => exact h a

theorem Yields.guard {c : Prop} {_ : Decidable c} {e : ε} {next : Unit → Except ε β}
    (h : Yields P (next ())) : Yields P (if c then .error e >>= next else next ()) := by
  split
  · exact .error e
  · exact h

theorem Yields.of_eq_ok {read : Except ε β} {b : β} (h : Yields P read) (hb : read = .ok b) :
    P b := by
  subst hb
  cases h
  assumption

end Yields

section Reading

open Date (InCalendar)

theorem Instant.yields_ofParts? (year : Int) (month day : Nat) :
    Yields InCalendar (Instant.orRange (Date.ofParts? year month day)) := by
  cases h : Date.ofParts? year month day with
  | none => exact .error _
  | some d => exact .ok (Date.ofParts?_eq_some_iff.mp h).1

theorem yields_readPlainDate (text : List Char) : Yields InCalendar (readPlainDate text) := by
  refine .bind fun (_, _) => .bind fun _ => .bind fun (_, _) => .bind fun _ => ?_
  refine .bind fun (_, _) => .guard ?_
  exact Instant.yields_ofParts? ..

theorem yields_readDateTime (mark : List Char → Except ScanError (List Char)) (hasSeconds : Bool)
    (text : List Char) : Yields InCalendar (readDateTime mark hasSeconds text) := by
  refine .bind fun (_, _) => .bind fun _ => .bind fun (_, _) => .bind fun _ => ?_
  refine .bind fun (_, _) => .bind fun _ => .bind fun (_, _) => .bind fun _ => ?_
  refine .bind fun (_, _) => ?_
  cases hasSeconds with
  | true =>
      refine .bind fun _ => .bind fun (_, _) => .bind fun (_, _) => .bind fun _ => .guard ?_
      exact Instant.yields_ofParts? ..
  | false =>
      refine .bind fun _ => .guard ?_
      exact Instant.yields_ofParts? ..

namespace Instant

theorem yields_build (year : Int) (month day hour minute second nanosecond : Nat) (offset : Int) :
    Yields (fun i => i.date.InCalendar)
      (build year month day hour minute second nanosecond offset) := by
  refine .bind fun date => .guard ?_
  cases h : ofLocal? date (.ofClock hour minute second nanosecond) offset with
  | none => exact .error _
  | some i =>
      obtain ⟨d, hd, rfl⟩ := Option.map_eq_some_iff.mp h
      exact .ok (Date.ofDays?_eq_some_iff.mp hd).1

theorem yields_readStrict (text : List Char) :
    Yields (fun i => i.date.InCalendar) (readStrict text) := by
  unfold readStrict
  refine .guard (.bind fun (_, _) => .bind fun (_, _) => ?_)
  refine .bind fun _ => .bind fun (_, _) => .bind fun _ => .bind fun (_, _) => .bind fun _ => ?_
  refine .bind fun _ => .bind fun (_, _) => .bind fun _ => .bind fun (_, _) => ?_
  refine .bind fun _ => .bind fun (_, _) => .bind fun (_, _) => .guard ?_
  refine .bind fun (_, _) => .guard ?_
  exact yields_build ..

end Instant

theorem inCalendar_readDate? {text : List Char} {d : Date} (h : readDate? text = some d) :
    d.InCalendar := by
  unfold readDate? at h
  split at h
  · next i hi =>
      obtain rfl := Option.some.inj h
      exact (Instant.yields_readStrict text).of_eq_ok hi
  · obtain ⟨read, hread, hd⟩ := List.exists_of_findSome?_eq_some h
    have hyields : Yields InCalendar (read text) := by
      simp only [List.mem_cons, List.not_mem_nil, or_false] at hread
      rcases hread with rfl | rfl | rfl | rfl | rfl
      · exact yields_readDateTime ..
      · exact yields_readDateTime ..
      · exact yields_readDateTime ..
      · exact yields_readDateTime ..
      · exact yields_readPlainDate ..
    cases hr : read text with
    | error e =>
        rw [hr] at hd
        cases hd
    | ok e =>
        rw [hr] at hd
        obtain rfl := Option.some.inj hd
        exact hyields.of_eq_ok hr

end Reading

section Writing

theorem isBlank_of_isDigit {c : Char} (h : c.isDigit = true) : Text.isBlank c = false := by
  have hn := Decimal.toNat_of_isDigit h
  simp only [Text.isBlank, Bool.or_eq_false_iff, Bool.and_eq_false_iff, decide_eq_false_iff_not]
  omega

theorem trimLeft_of_head {c : Char} {cs : List Char} (h : Text.isBlank c = false) :
    Text.trimLeft (c :: cs) = c :: cs := by
  simp [Text.trimLeft, h]

theorem digits_padLeft_self (width n : Nat) :
    ∃ k, 0 < k ∧ Digits k n (padLeft width n).toList := by
  refine ⟨_, ?_, rfl, fun _ h => isDigit_of_mem_padLeft h, magnitudeOf_padLeft width n⟩
  rw [toList_padLeft, List.length_append]
  have hpos : 0 < (Nat.toDigits 10 n).length := Nat.length_toDigits_pos
  omega

variable {n width : Nat} {cs : List Char}

theorem trimLeft_of_digits (h : Digits width n cs) (hw : 0 < width) (rest : List Char) :
    Text.trimLeft (cs ++ rest) = cs ++ rest := by
  obtain ⟨c, tail, rfl⟩ := List.exists_cons_of_length_pos (h.length ▸ hw)
  exact trimLeft_of_head (isBlank_of_isDigit (h.isDigit c List.mem_cons_self))

theorem scanNumber_of_digits (h : Digits width n cs) (hw : 0 < width)
    (hrange : Decimal.IntegerRange.int64.contains n = true) (rest : List Char) :
    scanNumber width (cs ++ rest) = .ok (n, rest) := by
  refine scanNumber_of_takeWhile h hw ?_ hrange
  rw [← h.length, List.take_left, List.takeWhile_eq_self_iff.mpr h.isDigit]

theorem scanField_append {least greatest : Nat} (h : Digits 2 n cs)
    (hn : least ≤ n ∧ n ≤ greatest) (hlt : n < 100) (rest : List Char) :
    scanField 2 least greatest (cs ++ rest) = .ok (n, rest) := by
  have hscan := scanNumber_of_digits h (by decide) (int64_contains (by omega)) rest
  simp only [scanField, trimLeft_of_digits h (by decide), hscan, bind, Except.bind, if_pos hn]

theorem scanYear_signed {sign : Char} {year : Int} {rest : List Char}
    (hsign : sign = '-' ∧ -(n : Int) = year ∨ sign = '+' ∧ (n : Int) = year)
    (hscan : scanNumber cs.length cs = .ok (n, rest))
    (hrange : Decimal.IntegerRange.int32.contains year = true) :
    scanYear (sign :: cs) = .ok (year, rest) := by
  rcases hsign with ⟨rfl, rfl⟩ | ⟨rfl, rfl⟩
  · simp only [scanYear, trimLeft_of_head (c := '-') rfl, hscan, bind, Except.bind, pure,
      Except.pure, hrange, if_true]
  · simp only [scanYear, trimLeft_of_head (c := '+') rfl, hscan, bind, Except.bind, pure,
      Except.pure, hrange, if_true]

theorem scanYear_unsigned (h : Digits 4 n cs) (hn : n < 10 ^ 4)
    (hrange : Decimal.IntegerRange.int32.contains n = true) (rest : List Char) :
    scanYear (cs ++ rest) = .ok ((n : Int), rest) := by
  have hscan := scanNumber_of_digits h (by decide) (int64_contains (by omega)) rest
  have htrim := trimLeft_of_digits h (by decide) rest
  obtain ⟨c, tail, rfl⟩ := List.exists_cons_of_length_pos (h.length ▸ (by decide : 0 < 4))
  have hc : c.isDigit = true := h.isDigit c List.mem_cons_self
  have hminus : c ≠ '-' := by rintro rfl; cases hc
  have hplus : c ≠ '+' := by rintro rfl; cases hc
  rw [List.cons_append] at hscan htrim ⊢
  simp [scanYear, htrim, hscan, hminus, hplus, bind, Except.bind, pure, Except.pure, hrange]

theorem scanYear_yearText {year : Int} (h : Date.hasYear year = true) (rest : List Char) :
    scanYear ((yearText year).toList ++ '-' :: rest) = .ok (year, '-' :: rest) := by
  have hleast : Date.leastYear = -262143 := rfl
  have hgreatest : Date.greatestYear = 262142 := rfl
  simp only [Date.hasYear, Bool.and_eq_true, decide_eq_true_eq] at h
  have hint32 : Decimal.IntegerRange.int32.contains year = true := by
    have hmin : Int32.minValue.toInt = -2147483648 := by decide
    have hmax : Int32.maxValue.toInt = 2147483647 := by decide
    simp only [Decimal.IntegerRange.contains, Bool.and_eq_true, decide_eq_true_eq]
    simp only [Decimal.IntegerRange.int32]
    omega
  obtain ⟨k, hk, hdigits⟩ := digits_padLeft_self 4 year.natAbs
  have hsigned : scanNumber ((padLeft 4 year.natAbs).toList ++ '-' :: rest).length
      ((padLeft 4 year.natAbs).toList ++ '-' :: rest) = .ok (year.natAbs, '-' :: rest) := by
    refine scanNumber_of_takeWhile hdigits hk ?_ (int64_contains (by omega))
    rw [List.length_append, hdigits.length]
    exact takeWhile_isDigit_append hdigits rfl rest _
  unfold yearText
  split
  · rw [String.toList_append]
    exact scanYear_signed (.inl ⟨rfl, by omega⟩) hsigned hint32
  · split
    · rw [String.toList_append]
      exact scanYear_signed (.inr ⟨rfl, by omega⟩) hsigned hint32
    · have hyear : (year.natAbs : Int) = year := by omega
      have hn : year.natAbs < 10 ^ 4 := by omega
      rw [scanYear_unsigned (digits_padLeft (by decide) hn) hn (hyear.symm ▸ hint32), hyear]

variable {d : Date}

theorem toList_text (d : Date) :
    d.text.toList = (yearText d.year).toList ++
      '-' :: ((padLeft 2 d.month).toList ++ '-' :: (padLeft 2 d.day).toList) := by
  simp [Date.text]

theorem char_yearText {year : Int} {c : Char} (h : c ∈ (yearText year).toList) :
    c.isDigit = true ∨ c = '-' ∨ c = '+' := by
  unfold yearText at h
  split at h
  · rw [String.toList_append, List.mem_append] at h
    exact h.symm.imp isDigit_of_mem_padLeft fun h => .inl (List.mem_singleton.mp h)
  · split at h
    · rw [String.toList_append, List.mem_append] at h
      exact h.symm.imp isDigit_of_mem_padLeft fun h => .inr (List.mem_singleton.mp h)
    · exact .inl (isDigit_of_mem_padLeft h)

theorem char_text {c : Char} (h : c ∈ d.text.toList) : c.isDigit = true ∨ c = '-' ∨ c = '+' := by
  rw [toList_text] at h
  simp only [List.mem_append, List.mem_cons] at h
  rcases h with h | h | h | h | h
  · exact char_yearText h
  · exact .inr (.inl h)
  · exact .inl (isDigit_of_mem_padLeft h)
  · exact .inr (.inl h)
  · exact .inl (isDigit_of_mem_padLeft h)

theorem trimChars_text (d : Date) : Text.trimChars d.text.toList = d.text.toList := by
  have hblank {c : Char} (h : c ∈ d.text.toList) : ¬Text.isBlank c = true := by
    rcases char_text h with h | rfl | rfl
    · simp [isBlank_of_isDigit h]
    · decide
    · decide
  have hdrop {cs : List Char} (h : ∀ c ∈ cs, ¬Text.isBlank c = true) :
      cs.dropWhile Text.isBlank = cs :=
    List.dropWhile_eq_self_iff.mpr fun hl => h _ (List.get_mem _ _)
  rw [Text.trimChars, Text.trimLeft, hdrop fun _ => hblank, Text.trimRight, hdrop,
    List.reverse_reverse]
  simpa using fun c hc => hblank hc

theorem utf8Size_of_isDigit {c : Char} (h : c.isDigit = true) : c.utf8Size = 1 := by
  have hn : c.val.toNat ≤ 57 := (Decimal.toNat_of_isDigit h).2
  unfold Char.utf8Size
  rw [if_pos]
  rw [UInt32.le_iff_toNat_le]
  exact hn.trans (by decide)

theorem Date.Valid.digits_month (h : d.Valid) : Digits 2 d.month (padLeft 2 d.month).toList :=
  digits_padLeft (by decide) (h.month_le.trans_lt (by decide))

theorem Date.Valid.digits_day (h : d.Valid) : Digits 2 d.day (padLeft 2 d.day).toList :=
  digits_padLeft (by decide) (h.day_le_31.trans_lt (by decide))

theorem Date.Valid.scanField_month (h : d.Valid) (rest : List Char) :
    scanField 2 1 12 ((padLeft 2 d.month).toList ++ rest) = .ok (d.month, rest) :=
  scanField_append h.digits_month ⟨h.month_pos, h.month_le⟩ (h.month_le.trans_lt (by decide)) rest

theorem Date.Valid.scanField_day (h : d.Valid) :
    scanField 2 1 31 (padLeft 2 d.day).toList = .ok (d.day, []) := by
  have hscan := scanField_append h.digits_day ⟨h.day_pos, h.day_le_31⟩
    (h.day_le_31.trans_lt (by decide)) []
  rwa [List.append_nil] at hscan

theorem utf8Len_eq_length {cs : List Char} (h : ∀ c ∈ cs, c.utf8Size = 1) :
    String.utf8Len cs = cs.length := by
  induction cs with
  | nil => rfl
  | cons c cs ih =>
      rw [String.utf8Len_cons, List.length_cons, h c List.mem_cons_self,
        ih fun c hc => h c (List.mem_cons_of_mem _ hc)]

theorem length_yearText_le {year : Int} (h : Date.hasYear year = true) :
    (yearText year).toList.length ≤ 7 := by
  have hleast : Date.leastYear = -262143 := rfl
  have hgreatest : Date.greatestYear = 262142 := rfl
  simp only [Date.hasYear, Bool.and_eq_true, decide_eq_true_eq] at h
  have hdigits : (padLeft 4 year.natAbs).toList.length ≤ 6 := by
    have hle := (Nat.length_toDigits_le_iff (n := year.natAbs) (by decide : 1 < 10)
      (by decide : 0 < 6)).mpr (by omega)
    rw [toList_padLeft, List.length_append, List.length_replicate]
    omega
  unfold yearText
  split
  · rw [String.toList_append, List.length_append]
    exact Nat.add_le_add_left hdigits 1
  · split
    · rw [String.toList_append, List.length_append]
      exact Nat.add_le_add_left hdigits 1
    · omega

theorem utf8ByteSize_text (h : d.InCalendar) :
    (String.ofList d.text.toList).utf8ByteSize < 19 := by
  have hsize : String.utf8Len d.text.toList = d.text.toList.length := by
    refine utf8Len_eq_length fun c hc => ?_
    rcases char_text hc with hd | rfl | rfl
    · exact utf8Size_of_isDigit hd
    · rfl
    · rfl
  have hyear := length_yearText_le h.hasYear
  rw [String.utf8ByteSize_ofList, hsize, toList_text]
  simp only [List.length_append, List.length_cons, h.valid.digits_month.length,
    h.valid.digits_day.length]
  omega

theorem readDateTime_text (h : d.InCalendar) {mark : List Char → Except ScanError (List Char)}
    (hmark : ∀ cs, mark [] = .ok cs → cs = []) (hasSeconds : Bool) :
    (readDateTime mark hasSeconds d.text.toList).toOption = none := by
  rw [toList_text]
  simp only [readDateTime, scanYear_yearText h.hasYear, bind, Except.bind, scanMark, if_true,
    h.valid.scanField_month, h.valid.scanField_day]
  cases hm : mark [] with
  | error e => rfl
  | ok cs =>
      obtain rfl := hmark cs hm
      rfl

theorem readPlainDate_text (h : d.InCalendar) : readPlainDate d.text.toList = .ok d := by
  have hdate := Date.ofParts?_of_valid h.valid h.hasYear
  rw [toList_text]
  simp only [readPlainDate, scanYear_yearText h.hasYear, bind, Except.bind, scanMark, if_true,
    h.valid.scanField_month, h.valid.scanField_day, hdate]
  rfl

theorem readDate?_text (h : d.InCalendar) : readDate? d.text.toList = some d := by
  have hstrict : Instant.readStrict d.text.toList = .error .tooShort := by
    unfold Instant.readStrict
    rw [if_pos (utf8ByteSize_text h)]
    rfl
  have hblank : ∀ cs, blankMark [] = .ok cs → cs = [] := by
    rintro _ ⟨⟩
    rfl
  have hT : ∀ cs, scanMark 'T' [] = .ok cs → cs = [] := fun _ h => nomatch h
  simp only [readDate?, hstrict, List.findSome?_cons, readDateTime_text h hblank,
    readDateTime_text h hT, readPlainDate_text h]
  rfl

end Writing

end TableQuery.Calendar
