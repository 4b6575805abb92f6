import TableQuery.Proofs.Sql.QuotedText
import TableQuery.Sql.Expr

namespace TableQuery

open Sql

namespace Dialect

def textStyle (d : Dialect) : QuoteStyle := ⟨'\x27', d = .mysql⟩

def readText (d : Dialect) : String → Option (String × String) := d.textStyle.readString

theorem read_quoteText (d : Dialect) (s : String) :
    d.textStyle.read (d.quoteText s).toList =
      ((QuoteStyle.plain '\x27').read (quoteChars '\x27' s.toList)).map
        (Prod.map id fun rest => if d = .mysql then doubleBackslashes rest else rest) := by
  by_cases hd : d = .mysql
  · have hq : '\x27' ≠ '\\' := by decide
    simp [textStyle, quoteText, hd, read_quoteChars_doubleBackslashes hq]
  · simp only [textStyle, quoteText, hd, QuoteStyle.plain, decide_false, if_false,
      String.toList_ofList]
    cases (QuoteStyle.mk '\x27' false).read (quoteChars '\x27' s.toList) <;> rfl

theorem read_quoteText_eq_whole_iff (d : Dialect) (s : String) (value : List Char) :
    d.textStyle.read (d.quoteText s).toList = some (value, []) ↔
      (QuoteStyle.plain '\x27').read (quoteChars '\x27' s.toList) = some (value, []) := by
  have hrest (rest : List Char) :
      (if d = .mysql then doubleBackslashes rest else rest) = [] ↔ rest = [] := by
    by_cases hd : d = .mysql <;> simp [hd, doubleBackslashes_eq_nil_iff]
  rw [read_quoteText, Option.map_eq_some_iff]
  constructor
  · rintro ⟨⟨text, rest⟩, hr, he⟩
    obtain ⟨rfl, hnil⟩ := Prod.mk.inj he
    obtain rfl := (hrest rest).mp hnil
    exact hr
  · intro hr
    exact ⟨_, hr, by simp⟩

theorem readText_quoteText_iff (d : Dialect) (s : String) :
    d.readText (d.quoteText s) = some (s, "") ↔ Separated '\x27' s.toList := by
  rw [readText, QuoteStyle.readString_eq_whole_iff, read_quoteText_eq_whole_iff,
    QuoteStyle.plain_read_quoteChars_iff (by decide)]

theorem exists_readText_quoteText_iff (d : Dialect) (s : String) :
    (∃ t, d.readText (d.quoteText s) = some (t, "")) ↔ EvenAfterBackslashes '\x27' s.toList := by
  rw [readText, QuoteStyle.exists_readString_whole_iff]
  simp only [read_quoteText_eq_whole_iff]
  rw [QuoteStyle.exists_plain_read_quoteChars_iff (by decide)]

end Dialect

/-- A literal is read back as it was written exactly if no quote of its text stands right after a
quote or a backslash, and it is one literal at all exactly if the runs of quotes after backslashes
are even. -/
theorem literal_reads_back_iff (d : Dialect) :
    (∀ s, d.readText (d.quoteText s) = some (s, "") ↔ Separated '\x27' s.toList) ∧
      (∀ s, (∃ t, d.readText (d.quoteText s) = some (t, "")) ↔
        EvenAfterBackslashes '\x27' s.toList) ∧
      (∀ s, d.readText (literal d (.str s)) = some (s, "") ↔ Separated '\x27' s.toList) ∧
      (∀ items, d.readText (literal d (.arr items)) = some ((Json.arr items).render, "") ↔
        Separated '\x27' (Json.arr items).render.toList) ∧
      (∀ fields, d.readText (literal d (.obj fields)) = some ((Json.obj fields).render, "") ↔
        Separated '\x27' (Json.obj fields).render.toList) := by
  refine ⟨d.readText_quoteText_iff, d.exists_readText_quoteText_iff, d.readText_quoteText_iff,
    ?_, ?_⟩
  · intro items
    exact d.readText_quoteText_iff _
  · intro fields
    exact d.readText_quoteText_iff _

/-- The quote after the backslash is left alone and ends the literal, or opens what never ends. -/
theorem quoteText_unterminated :
    Dialect.sqlite.readText (Dialect.sqlite.quoteText "\\'") = none ∧
      Dialect.mysql.readText (Dialect.mysql.quoteText "\\'") = none := by
  simp only [Dialect.readText, QuoteStyle.readString, Dialect.read_quoteText]
  decide

end TableQuery
