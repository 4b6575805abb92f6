import Mathlib.Algebra.Group.Nat.Even
import Mathlib.Data.List.Induction
import Mathlib.Tactic.Common
import TableQuery.Sql.Quoting

namespace TableQuery.Sql

/-- How a quoted token is read: two quotes stand for one, and a backslash may take the character
after it as it is. -/
structure QuoteStyle where
  quote : Char
  backslash : Bool

namespace QuoteStyle

/-- What stands before the closing quote, and what is left after it. -/
def readBody (style : QuoteStyle) : List Char → Option (List Char × List Char)
  | [] => none
  | c :: rest =>
    if c = style.quote then
      match rest with
      | [] => some ([], [])
      | d :: after =>
        if d = style.quote then (style.readBody after).map (Prod.map (d :: ·) id)
        else some ([], d :: after)
    else if style.backslash ∧ c = '\\' then
      match rest with
      | [] => none
      | d :: after => (style.readBody after).map (Prod.map (d :: ·) id)
    else (style.readBody rest).map (Prod.map (c :: ·) id)

def read (style : QuoteStyle) : List Char → Option (List Char × List Char)
  | [] => none
  | c :: rest => if c = style.quote then style.readBody rest else none

def readString (style : QuoteStyle) (s : String) : Option (String × String) :=
  (style.read s.toList).map (Prod.map String.ofList String.ofList)

end QuoteStyle

def doubleQuotes (quote : Char) (cs : List Char) : List Char :=
  cs.flatMap fun c => if c = quote then [c, c] else [c]

/-- No quote stands right after a quote or a backslash. -/
def Separated (quote : Char) (cs : List Char) : Prop :=
  cs.IsChain fun before c => c = quote → before ≠ quote ∧ before ≠ '\\'

instance (quote : Char) (cs : List Char) : Decidable (Separated quote cs) :=
  inferInstanceAs (Decidable (cs.IsChain _))

def leadingQuotes (quote : Char) (cs : List Char) : Nat := (cs.takeWhile (· = quote)).length

/-- An even number of quotes, maybe none, stands right after each backslash. -/
def EvenAfterBackslashes (quote : Char) (cs : List Char) : Prop :=
  ∀ rest, '\\' :: rest <:+ cs → Even (leadingQuotes quote rest)

section Doubling

variable (quote : Char)

@[simp]
theorem doubleQuotes_nil : doubleQuotes quote [] = [] := rfl

@[simp]
theorem doubleQuotes_quote (cs : List Char) :
    doubleQuotes quote (quote :: cs) = quote :: quote :: doubleQuotes quote cs := by
  simp [doubleQuotes]

variable {quote} in
@[simp]
theorem doubleQuotes_cons {c : Char} (hc : c ≠ quote) (cs : List Char) :
    doubleQuotes quote (c :: cs) = c :: doubleQuotes quote cs := by
  simp [doubleQuotes, hc]

theorem doubleQuotes_length_cons (c : Char) (cs : List Char) :
    (doubleQuotes quote cs).length < (doubleQuotes quote (c :: cs)).length := by
  by_cases hc : c = quote
  · subst hc; simp only [doubleQuotes_quote, List.length_cons]; omega
  · simp [hc]

end Doubling

namespace QuoteStyle

variable (style : QuoteStyle)

@[simp]
theorem readBody_nil : style.readBody [] = none := rfl

@[simp]
theorem readBody_pair (cs : List Char) :
    style.readBody (style.quote :: style.quote :: cs) =
      (style.readBody cs).map (Prod.map (style.quote :: ·) id) := by
  simp [readBody]

variable {style} in
theorem readBody_close {rest : List Char} (h : rest.head? ≠ some style.quote) :
    style.readBody (style.quote :: rest) = some ([], rest) := by
  cases rest with
  | nil => simp [readBody]
  | cons d after =>
      have hd : d ≠ style.quote := by simpa using h
      simp [readBody, hd]

variable {style} in
theorem readBody_other {c : Char} (hc : c ≠ style.quote) (hb : ¬ (style.backslash ∧ c = '\\'))
    (cs : List Char) :
    style.readBody (c :: cs) = (style.readBody cs).map (Prod.map (c :: ·) id) := by
  cases cs <;> simp [readBody, hc, hb]

theorem readBody_backslash {quote c : Char} (hq : '\\' ≠ quote) (cs : List Char) :
    (QuoteStyle.mk quote true).readBody ('\\' :: c :: cs) =
      ((QuoteStyle.mk quote true).readBody cs).map (Prod.map (c :: ·) id) := by
  simp [readBody, hq]

/-- Without escapes by backslash, every character but the quote stands for itself. -/
def plain (quote : Char) : QuoteStyle := ⟨quote, false⟩

theorem readBody_plain_cons {quote c : Char} (hc : c ≠ quote) (cs : List Char) :
    (plain quote).readBody (c :: cs) = ((plain quote).readBody cs).map (Prod.map (c :: ·) id) := by
  exact readBody_other hc (by simp [plain]) cs

theorem readBody_doubleQuotes (quote : Char) (value : List Char) {rest : List Char}
    (h : rest.head? ≠ some quote) :
    (plain quote).readBody (doubleQuotes quote value ++ quote :: rest) = some (value, rest) := by
  induction value with
  | nil => exact readBody_close h
  | cons c value ih =>
      by_cases hc : c = quote
      · subst hc
        have hp := readBody_pair (plain c) (doubleQuotes c value ++ c :: rest)
        rw [ih] at hp
        simpa [plain] using hp
      · rw [doubleQuotes_cons hc, List.cons_append, readBody_plain_cons hc, ih]
        rfl

theorem readBody_sound (quote : Char) (cs value rest : List Char)
    (h : (plain quote).readBody cs = some (value, rest)) :
    cs = doubleQuotes quote value ++ quote :: rest ∧ rest.head? ≠ some quote := by
  fun_induction readBody (plain quote) cs generalizing value with
  | case1 => simp at h
  | case2 =>
      obtain ⟨rfl, rfl⟩ : value = [] ∧ rest = [] := by simpa [eq_comm] using h
      exact ⟨rfl, by simp⟩
  | case3 after ih =>
      obtain ⟨⟨v, r⟩, hr, he⟩ := Option.map_eq_some_iff.mp h
      obtain ⟨rfl, rfl⟩ := Prod.mk.inj he
      obtain ⟨rfl, hend⟩ := ih v hr
      exact ⟨by simp [plain], hend⟩
  | case4 d after hd =>
      obtain ⟨rfl, rfl⟩ : value = [] ∧ rest = d :: after := by simpa [eq_comm] using h
      exact ⟨rfl, by simpa [plain] using hd⟩
  | case5 d hd hb | case6 d hd hb => exact absurd hb.1 (by simp [plain])
  | case7 c after hc hb ih =>
      obtain ⟨⟨v, r⟩, hr, he⟩ := Option.map_eq_some_iff.mp h
      obtain ⟨rfl, rfl⟩ := Prod.mk.inj he
      obtain ⟨rfl, hend⟩ := ih v hr
      exact ⟨by rw [doubleQuotes_cons (by simpa [plain] using hc), List.cons_append], hend⟩

/-- Reading takes back exactly the doubling of quotes, up to a quote that no other one follows. -/
theorem readBody_eq_some_iff (quote : Char) (cs value rest : List Char) :
    (plain quote).readBody cs = some (value, rest) ↔
      cs = doubleQuotes quote value ++ quote :: rest ∧ rest.head? ≠ some quote := by
  constructor
  · exact readBody_sound quote cs value rest
  · rintro ⟨rfl, h⟩
    exact readBody_doubleQuotes quote value h

end QuoteStyle

section Escaping

variable {quote : Char}

theorem separated_cons (c : Char) (cs : List Char) :
    Separated quote (c :: cs) ↔
      (cs.head? = some quote → c ≠ quote ∧ c ≠ '\\') ∧ Separated quote cs := by
  cases cs <;> simp [Separated]

theorem escapeQuotes_length_le (quote previous : Char) (cs : List Char) :
    (escapeQuotes quote previous cs).length ≤ (doubleQuotes quote cs).length := by
  fun_induction escapeQuotes quote previous cs with
  | case1 => simp
  | case2 previous c rest hc ih => simpa [hc] using ih
  | case3 c rest hc ih =>
      obtain rfl := not_not.mp hc
      have h := doubleQuotes_length_cons c c rest
      simp only [List.length_cons]
      omega
  | case4 previous c hc => obtain rfl := not_not.mp hc; simp
  | case5 previous c hc hp after ih =>
      obtain rfl := not_not.mp hc
      simp only [doubleQuotes_quote, List.length_cons]
      omega
  | case6 previous c hc hp d after hd ih =>
      obtain rfl := not_not.mp hc
      simpa only [doubleQuotes_quote, List.length_cons, Nat.add_le_add_iff_right] using ih

theorem escapeQuotes_ne (previous : Char) {cs ds : List Char}
    (h : (doubleQuotes quote cs).length < ds.length) : escapeQuotes quote previous cs ≠ ds := by
  rintro rfl
  have hl := escapeQuotes_length_le quote previous cs
  omega

theorem escapeQuotes_eq_doubleQuotes_iff (hq : quote ≠ '\\') (previous : Char) (cs : List Char) :
    escapeQuotes quote previous cs = doubleQuotes quote cs ↔
      (previous = '\\' → cs.head? ≠ some quote) ∧ Separated quote cs := by
  fun_induction escapeQuotes quote previous cs with
  | case1 => simp [Separated]
  | case2 previous c rest hc ih =>
      rw [doubleQuotes_cons hc, List.cons_inj_right, ih, separated_cons]
      simp only [List.head?_cons, ne_eq, Option.some.injEq, hc]
      tauto
  | case3 c rest hc ih =>
      obtain rfl := not_not.mp hc
      have hne : c :: escapeQuotes c '\\' rest ≠ doubleQuotes c (c :: rest) := by
        intro he
        rw [doubleQuotes_quote, List.cons_inj_right] at he
        exact escapeQuotes_ne '\\' (by simp) he
      exact iff_of_false hne (fun h => h.1 rfl rfl)
  | case4 previous c hc hp =>
      obtain rfl := not_not.mp hc
      simp [hp, Separated]
  | case5 previous c hc hp after ih =>
      obtain rfl := not_not.mp hc
      have hne : c :: c :: escapeQuotes c c after ≠ doubleQuotes c (c :: c :: after) := by
        intro he
        rw [doubleQuotes_quote, List.cons_inj_right, List.cons_inj_right] at he
        exact escapeQuotes_ne c (doubleQuotes_length_cons c c after) he
      exact iff_of_false hne (fun h => ((separated_cons _ _).mp h.2).1 rfl |>.1 rfl)
  | case6 previous c hc hp d after hd ih =>
      obtain rfl := not_not.mp hc
      rw [doubleQuotes_quote, List.cons_inj_right, List.cons_inj_right, ih, separated_cons c]
      simp only [List.head?_cons, ne_eq, Option.some.injEq, hd, hp, hq]
      tauto

variable {c : Char}

theorem escapeQuotes_other (hc : c ≠ quote) (previous : Char) (cs : List Char) :
    escapeQuotes quote previous (c :: cs) = c :: escapeQuotes quote c cs := by
  cases cs <;> simp [escapeQuotes, hc]

theorem escapeQuotes_backslash (cs : List Char) :
    escapeQuotes quote '\\' (quote :: cs) = quote :: escapeQuotes quote '\\' cs := by
  cases cs <;> simp [escapeQuotes]

theorem escapeQuotes_pair {previous : Char} (hp : previous ≠ '\\') (cs : List Char) :
    escapeQuotes quote previous (quote :: quote :: cs) =
      quote :: quote :: escapeQuotes quote quote cs := by
  simp [escapeQuotes, hp]

theorem escapeQuotes_lone {previous : Char} (hp : previous ≠ '\\') {cs : List Char}
    (h : cs.head? ≠ some quote) :
    escapeQuotes quote previous (quote :: cs) = quote :: quote :: escapeQuotes quote quote cs := by
  cases cs with
  | nil => simp [escapeQuotes, hp]
  | cons d cs =>
      have hd : d ≠ quote := by simpa using h
      simp [escapeQuotes, hp, hd]

end Escaping

section Closing

variable {quote : Char}

@[simp]
theorem leadingQuotes_nil : leadingQuotes quote [] = 0 := rfl

@[simp]
theorem leadingQuotes_quote (cs : List Char) :
    leadingQuotes quote (quote :: cs) = leadingQuotes quote cs + 1 := by
  simp [leadingQuotes]

@[simp]
theorem leadingQuotes_other {c : Char} (hc : c ≠ quote) (cs : List Char) :
    leadingQuotes quote (c :: cs) = 0 := by
  simp [leadingQuotes, hc]

theorem evenAfterBackslashes_nil : EvenAfterBackslashes quote [] := by
  intro rest h
  simp at h

theorem evenAfterBackslashes_cons (c : Char) (cs : List Char) :
    EvenAfterBackslashes quote (c :: cs) ↔
      (c = '\\' → Even (leadingQuotes quote cs)) ∧ EvenAfterBackslashes quote cs := by
  simp only [EvenAfterBackslashes, List.suffix_cons_iff, List.cons.injEq]
  constructor
  · intro h
    exact ⟨fun hc => h cs (.inl ⟨hc.symm, rfl⟩), fun rest hr => h rest (.inr hr)⟩
  · rintro ⟨hc, h⟩ rest (⟨rfl, rfl⟩ | hr)
    · exact hc rfl
    · exact h rest hr

def Closes (quote : Char) (cs : List Char) : Prop :=
  ∃ value, (QuoteStyle.plain quote).readBody cs = some (value, [])

theorem exists_map_eq_some_iff (f : List Char → List Char) (x : Option (List Char × List Char)) :
    (∃ value, x.map (Prod.map f id) = some (value, [])) ↔ ∃ value, x = some (value, []) := by
  rcases x with _ | ⟨v, r⟩ <;> simp

theorem closes_nil : ¬ Closes quote [] := by
  simp [Closes]

theorem closes_pair (cs : List Char) : Closes quote (quote :: quote :: cs) ↔ Closes quote cs := by
  have h := (QuoteStyle.plain quote).readBody_pair cs
  simp only [QuoteStyle.plain] at h
  simp only [Closes, QuoteStyle.plain, h, exists_map_eq_some_iff]

theorem closes_other {c : Char} (hc : c ≠ quote) (cs : List Char) :
    Closes quote (c :: cs) ↔ Closes quote cs := by
  simp only [Closes, QuoteStyle.readBody_plain_cons hc, exists_map_eq_some_iff]

theorem closes_quote {cs : List Char} (h : cs.head? ≠ some quote) :
    Closes quote (quote :: cs) ↔ cs = [] := by
  have hr : (QuoteStyle.plain quote).readBody (quote :: cs) = some ([], cs) :=
    QuoteStyle.readBody_close h
  simp [Closes, hr]

theorem closes_last : Closes quote [quote] := (closes_quote (by simp)).mpr rfl

/-- A run of quotes after a backslash is left as it is, so its length alone decides whether the
closing quote still closes. -/
theorem closes_escapeQuotes_iff (hq : quote ≠ '\\') (previous : Char) (cs : List Char) :
    Closes quote (escapeQuotes quote previous cs ++ [quote]) ↔
      (previous = '\\' → Even (leadingQuotes quote cs)) ∧ EvenAfterBackslashes quote cs := by
  induction cs using List.twoStepInduction generalizing previous with
  | nil => simp [escapeQuotes, closes_last, evenAfterBackslashes_nil]
  | singleton c =>
      by_cases hc : c = quote
      · subst hc
        by_cases hp : previous = '\\'
        · subst hp
          simp [escapeQuotes, closes_pair, closes_nil]
        · simp [escapeQuotes, hp, closes_pair, closes_last, evenAfterBackslashes_cons,
            evenAfterBackslashes_nil, hq]
      · simp [escapeQuotes, hc, closes_other, closes_last, evenAfterBackslashes_cons,
          evenAfterBackslashes_nil]
  | cons_cons c d cs ih ihd =>
      by_cases hc : c = quote
      · subst hc
        by_cases hp : previous = '\\'
        · subst hp
          by_cases hd : d = c
          · subst hd
            rw [escapeQuotes_backslash, escapeQuotes_backslash, List.cons_append, List.cons_append,
              closes_pair, ih, evenAfterBackslashes_cons, evenAfterBackslashes_cons]
            simp [hq, Nat.even_add_one]
          · have hopen : ¬ Closes c (escapeQuotes c '\\' (c :: d :: cs) ++ [c]) := by
              rw [escapeQuotes_backslash, escapeQuotes_other hd, List.cons_append,
                closes_quote (by simp [hd])]
              simp
            exact iff_of_false hopen (fun h => by simpa [hd] using h.1 rfl)
        · by_cases hd : d = c
          · subst hd
            rw [escapeQuotes_pair hp, List.cons_append, List.cons_append, closes_pair, ih,
              evenAfterBackslashes_cons, evenAfterBackslashes_cons]
            simp [hq, hp]
          · rw [escapeQuotes_lone hp (by simp [hd]), List.cons_append, List.cons_append,
              closes_pair, ihd, evenAfterBackslashes_cons c]
            simp [hq, hp]
      · rw [escapeQuotes_other hc, List.cons_append, closes_other hc, ihd,
          evenAfterBackslashes_cons c, leadingQuotes_other hc]
        simp

end Closing

namespace QuoteStyle

variable {quote : Char}

theorem readString_eq_whole_iff (style : QuoteStyle) (s t : String) :
    style.readString s = some (t, "") ↔ style.read s.toList = some (t.toList, []) := by
  rw [readString, Option.map_eq_some_iff]
  constructor
  · rintro ⟨⟨value, rest⟩, hr, he⟩
    obtain ⟨rfl, hrest⟩ := Prod.mk.inj he
    obtain rfl : rest = [] := by simpa using hrest
    simpa using hr
  · intro hr
    exact ⟨_, hr, by simp⟩

theorem exists_readString_whole_iff (style : QuoteStyle) (s : String) :
    (∃ t, style.readString s = some (t, "")) ↔ ∃ value, style.read s.toList = some (value, []) := by
  simp only [readString_eq_whole_iff]
  exact ⟨fun ⟨t, h⟩ => ⟨t.toList, h⟩, fun ⟨value, h⟩ => ⟨String.ofList value, by simpa using h⟩⟩

theorem read_quoteChars (style : QuoteStyle) (cs : List Char) :
    style.read (quoteChars style.quote cs) =
      style.readBody (escapeQuotes style.quote '\x00' cs ++ [style.quote]) := by
  simp [read, quoteChars]

theorem plain_read_quoteChars_iff (hq : quote ≠ '\\') (cs : List Char) :
    (plain quote).read (quoteChars quote cs) = some (cs, []) ↔ Separated quote cs := by
  rw [show quoteChars quote cs = quoteChars (plain quote).quote cs from rfl, read_quoteChars,
    readBody_eq_some_iff]
  simp [plain, escapeQuotes_eq_doubleQuotes_iff hq]

theorem exists_plain_read_quoteChars_iff (hq : quote ≠ '\\') (cs : List Char) :
    (∃ value, (plain quote).read (quoteChars quote cs) = some (value, [])) ↔
      EvenAfterBackslashes quote cs := by
  rw [show quoteChars quote cs = quoteChars (plain quote).quote cs from rfl, read_quoteChars]
  exact (closes_escapeQuotes_iff hq '\x00' cs).trans (by simp)

end QuoteStyle

section Backslashes

variable {quote : Char}

@[simp]
theorem doubleBackslashes_nil : doubleBackslashes [] = [] := rfl

@[simp]
theorem doubleBackslashes_backslash (cs : List Char) :
    doubleBackslashes ('\\' :: cs) = '\\' :: '\\' :: doubleBackslashes cs := by
  simp [doubleBackslashes]

@[simp]
theorem doubleBackslashes_other {c : Char} (hc : c ≠ '\\') (cs : List Char) :
    doubleBackslashes (c :: cs) = c :: doubleBackslashes cs := by
  simp [doubleBackslashes, hc]

theorem doubleBackslashes_append (cs ds : List Char) :
    doubleBackslashes (cs ++ ds) = doubleBackslashes cs ++ doubleBackslashes ds := by
  simp [doubleBackslashes]

theorem doubleBackslashes_eq_nil_iff (cs : List Char) : doubleBackslashes cs = [] ↔ cs = [] := by
  cases cs with
  | nil => simp
  | cons c cs => by_cases hc : c = '\\' <;> simp [hc]

theorem doubleBackslashes_head? (cs : List Char) : (doubleBackslashes cs).head? = cs.head? := by
  cases cs with
  | nil => simp
  | cons c cs =>
      by_cases hc : c = '\\'
      · subst hc; simp
      · simp [hc]

/-- Doubled backslashes change nothing for the quotes: one before a quote is still one. -/
theorem escapeQuotes_doubleBackslashes (hq : quote ≠ '\\') (previous : Char) (cs : List Char) :
    escapeQuotes quote previous (doubleBackslashes cs) =
      doubleBackslashes (escapeQuotes quote previous cs) := by
  fun_induction escapeQuotes quote previous cs with
  | case1 => rfl
  | case2 previous c rest hc ih =>
      by_cases hb : c = '\\'
      · subst hb
        simp [escapeQuotes_other hc, ih]
      · simp [hb, escapeQuotes_other hc, ih]
  | case3 c rest hc ih =>
      obtain rfl := not_not.mp hc
      simp [hq, escapeQuotes_backslash, ih]
  | case4 previous c hc hp =>
      obtain rfl := not_not.mp hc
      simp [hq, escapeQuotes, hp]
  | case5 previous c hc hp after ih =>
      obtain rfl := not_not.mp hc
      simp [hq, escapeQuotes_pair hp, ih]
  | case6 previous c hc hp d after hd ih =>
      obtain rfl := not_not.mp hc
      have hne : (doubleBackslashes (d :: after)).head? ≠ some c := by
        simpa [doubleBackslashes_head?] using hd
      rw [doubleBackslashes_other hq, escapeQuotes_lone hp hne, ih]
      simp [hq]

theorem readBody_doubleBackslashes (hq : quote ≠ '\\') (cs : List Char) :
    (QuoteStyle.mk quote true).readBody (doubleBackslashes cs) =
      ((QuoteStyle.plain quote).readBody cs).map (Prod.map id doubleBackslashes) := by
  fun_induction QuoteStyle.readBody (QuoteStyle.plain quote) cs with
  | case1 => rfl
  | case2 => simp [QuoteStyle.plain, QuoteStyle.readBody, hq]
  | case3 after ih =>
      have hp := (QuoteStyle.mk quote true).readBody_pair (doubleBackslashes after)
      simp only [QuoteStyle.plain] at hp ih ⊢
      rw [doubleBackslashes_other hq, doubleBackslashes_other hq, hp, ih]
      simp [Function.comp_def, Prod.map_map]
  | case4 d after hd =>
      simp only [QuoteStyle.plain] at hd ⊢
      have hne : (doubleBackslashes (d :: after)).head? ≠ some quote := by
        simpa [doubleBackslashes_head?] using hd
      rw [doubleBackslashes_other hq, QuoteStyle.readBody_close hne]
      rfl
  | case5 d hd hb | case6 d hd hb => exact absurd hb.1 (by simp [QuoteStyle.plain])
  | case7 c after hc hb ih =>
      simp only [QuoteStyle.plain] at hc ih ⊢
      by_cases hc' : c = '\\'
      · subst hc'
        rw [doubleBackslashes_backslash, QuoteStyle.readBody_backslash hc, ih]
        simp [Function.comp_def, Prod.map_map]
      · rw [doubleBackslashes_other hc', QuoteStyle.readBody_other hc (by simp [hc']), ih]
        simp [Function.comp_def, Prod.map_map]

/-- What an engine with escapes by backslash reads of a text whose backslashes are doubled first. -/
theorem read_quoteChars_doubleBackslashes (hq : quote ≠ '\\') (cs : List Char) :
    (QuoteStyle.mk quote true).read (quoteChars quote (doubleBackslashes cs)) =
      ((QuoteStyle.plain quote).read (quoteChars quote cs)).map
        (Prod.map id doubleBackslashes) := by
  have hr := (QuoteStyle.mk quote true).read_quoteChars (doubleBackslashes cs)
  have hp := (QuoteStyle.plain quote).read_quoteChars cs
  have hd : [quote] = doubleBackslashes [quote] := by simp [hq]
  simp only [QuoteStyle.plain] at hr hp ⊢
  rw [hr, hp, escapeQuotes_doubleBackslashes hq, hd, ← doubleBackslashes_append,
    readBody_doubleBackslashes hq, ← hd]
  rfl

end Backslashes

end TableQuery.Sql
