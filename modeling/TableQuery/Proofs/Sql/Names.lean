import TableQuery.Proofs.Query.FieldNames
import TableQuery.Proofs.Sql.QuotedText
import TableQuery.Sql.Expr

namespace TableQuery

open Sql

namespace Sql.QuoteStyle

/-- One quoted name, or two with a point between them, and nothing after. -/
def readColumn (style : QuoteStyle) (cs : List Char) : Option (List (List Char)) :=
  match style.read cs with
  | some (name, []) => some [name]
  | some (table, '.' :: rest) =>
    match style.read rest with
    | some (column, []) => some [table, column]
    | _ => none
  | _ => none

theorem readColumn_eq_single_iff (style : QuoteStyle) (cs name : List Char) :
    style.readColumn cs = some [name] ↔ style.read cs = some (name, []) := by
  unfold readColumn
  split
  · simp_all
  · split <;> simp_all
  · simp_all

theorem readColumn_eq_pair_iff (style : QuoteStyle) (cs table column : List Char) :
    style.readColumn cs = some [table, column] ↔
      ∃ rest, style.read cs = some (table, '.' :: rest) ∧ style.read rest = some (column, []) := by
  unfold readColumn
  split
  · simp_all
  · split <;> simp_all
  · simp_all

variable {quote : Char}

theorem plain_read_eq_some_iff (cs value rest : List Char) :
    (plain quote).read cs = some (value, rest) ↔
      cs = quote :: (doubleQuotes quote value ++ quote :: rest) ∧ rest.head? ≠ some quote := by
  cases cs with
  | nil => simp [read]
  | cons c cs =>
      by_cases hc : c = quote
      · subst hc
        have hr : (plain c).read (c :: cs) = (plain c).readBody cs := by simp [read, plain]
        rw [hr, readBody_eq_some_iff, List.cons_inj_right]
      · simp [read, plain, hc]

/-- A name after the point cannot make up for one before it that is read wrongly: what was written
of both is no longer than what is read. -/
theorem plain_readColumn_pair_iff (hq : quote ≠ '\\') (hp : quote ≠ '.')
    (table column : List Char) :
    (plain quote).readColumn (quoteChars quote table ++ '.' :: quoteChars quote column) =
        some [table, column] ↔
      Separated quote table ∧ Separated quote column := by
  have hsep (cs : List Char) :
      escapeQuotes quote '\x00' cs = doubleQuotes quote cs ↔ Separated quote cs := by
    simp [escapeQuotes_eq_doubleQuotes_iff hq]
  rw [readColumn_eq_pair_iff]
  simp only [plain_read_eq_some_iff, quoteChars]
  constructor
  · rintro ⟨rest, ⟨he, -⟩, rfl, -⟩
    have ht := escapeQuotes_length_le quote '\x00' table
    have hc := escapeQuotes_length_le quote '\x00' column
    have hl := congrArg List.length he
    simp only [List.length_append, List.length_cons, List.length_nil] at hl
    obtain ⟨het, htail⟩ := List.append_inj (by simpa using he) (by omega)
    exact ⟨(hsep table).mp het, (hsep column).mp (by simpa using htail)⟩
  · rintro ⟨ht, hc⟩
    rw [← hsep] at ht hc
    exact ⟨quote :: (doubleQuotes quote column ++ [quote]), by simp [ht, hc, hp.symm]⟩

end Sql.QuoteStyle

namespace Dialect

def nameStyle (d : Dialect) : QuoteStyle := .plain d.quoteMark

def readName (d : Dialect) : String → Option (String × String) := d.nameStyle.readString

def readColumn (d : Dialect) (s : String) : Option (List String) :=
  (d.nameStyle.readColumn s.toList).map (List.map String.ofList)

theorem quoteMark_ne_backslash (d : Dialect) : d.quoteMark ≠ '\\' := by
  cases d <;> decide

theorem quoteMark_ne_point (d : Dialect) : d.quoteMark ≠ '.' := by
  cases d <;> decide

theorem readName_quoteName_iff (d : Dialect) (n : String) :
    d.readName (d.quoteName n) = some (n, "") ↔ Separated d.quoteMark n.toList := by
  rw [readName, QuoteStyle.readString_eq_whole_iff, quoteName, String.toList_ofList]
  exact QuoteStyle.plain_read_quoteChars_iff d.quoteMark_ne_backslash _

theorem exists_readName_quoteName_iff (d : Dialect) (n : String) :
    (∃ m, d.readName (d.quoteName n) = some (m, "")) ↔
      EvenAfterBackslashes d.quoteMark n.toList := by
  rw [readName, QuoteStyle.exists_readString_whole_iff, quoteName, String.toList_ofList]
  exact QuoteStyle.exists_plain_read_quoteChars_iff d.quoteMark_ne_backslash _

theorem readColumn_eq_some_iff (d : Dialect) (s : String) (names : List String) :
    d.readColumn s = some names ↔
      d.nameStyle.readColumn s.toList = some (names.map String.toList) := by
  rw [readColumn, Option.map_eq_some_iff]
  constructor
  · rintro ⟨parts, hr, rfl⟩
    simpa [Function.comp_def] using hr
  · intro hr
    exact ⟨_, hr, by simp [Function.comp_def]⟩

theorem readColumn_bare_iff (d : Dialect) (n : String) :
    d.readColumn ((ColumnRef.bare n).text d) = some [n] ↔ Separated d.quoteMark n.toList := by
  rw [readColumn_eq_some_iff, List.map_singleton, QuoteStyle.readColumn_eq_single_iff,
    ColumnRef.text, quoteName, String.toList_ofList]
  exact QuoteStyle.plain_read_quoteChars_iff d.quoteMark_ne_backslash _

theorem readColumn_qualified_iff (d : Dialect) (table column : String) :
    d.readColumn ((ColumnRef.qualified table column).text d) = some [table, column] ↔
      Separated d.quoteMark table.toList ∧ Separated d.quoteMark column.toList := by
  have ht : ((ColumnRef.qualified table column).text d).toList =
      quoteChars d.quoteMark table.toList ++ '.' :: quoteChars d.quoteMark column.toList := by
    simp [ColumnRef.text, quoteName]
  rw [readColumn_eq_some_iff, ht]
  exact QuoteStyle.plain_readColumn_pair_iff d.quoteMark_ne_backslash d.quoteMark_ne_point _ _

end Dialect

/-- A name is read back as it was written exactly if none of its quotes stands right after a quote
or a backslash, and a field exactly if that holds of the one or two names it is made of. -/
theorem name_reads_back_iff (d : Dialect) :
    (∀ n, d.readName (d.quoteName n) = some (n, "") ↔ Separated d.quoteMark n.toList) ∧
      (∀ n, (∃ m, d.readName (d.quoteName n) = some (m, "")) ↔
        EvenAfterBackslashes d.quoteMark n.toList) ∧
      (∀ field, '.' ∉ field.toList → field ≠ "*" →
        (d.readColumn ((ColumnRef.ofField field).text d) = some [field] ↔
          Separated d.quoteMark field.toList)) ∧
      (∀ table column, '.' ∉ table.toList →
        (d.readColumn ((ColumnRef.ofField (table ++ "." ++ column)).text d) = some [table, column] ↔
          Separated d.quoteMark table.toList ∧ Separated d.quoteMark column.toList)) := by
  refine ⟨d.readName_quoteName_iff, d.exists_readName_quoteName_iff, ?_, ?_⟩
  · intro field hp hs
    rw [ColumnRef.ofField, FieldRef.ofField_bare hp]
    simpa only [hs, if_false] using d.readColumn_bare_iff field
  · intro table column hp
    rw [ColumnRef.ofField, FieldRef.ofField_qualified hp]
    exact d.readColumn_qualified_iff table column

theorem quoted_orders_reads_back :
    '.' ∉ "or\"ders".toList ∧ "or\"ders" ≠ "*" ∧
      Dialect.sqlite.readColumn ((ColumnRef.ofField "or\"ders").text .sqlite) = some ["or\"ders"] ∧
      Dialect.sqlite.readColumn ((ColumnRef.ofField ("or\"ders" ++ "." ++ "a.b")).text .sqlite) =
        some ["or\"ders", "a.b"] := by
  have hp : '.' ∉ "or\"ders".toList := by decide
  have hs : "or\"ders" ≠ "*" := by decide
  obtain ⟨-, -, hbare, hqualified⟩ := name_reads_back_iff .sqlite
  exact ⟨hp, hs, (hbare _ hp hs).mpr (by decide), (hqualified _ "a.b" hp).mpr (by decide)⟩

/-- Two quotes in a name are taken for one that is escaped already. -/
theorem quoteName_merges_quotes :
    Dialect.sqlite.readName (Dialect.sqlite.quoteName "a\"\"b") = some ("a\"b", "") := by
  rw [Dialect.readName, QuoteStyle.readString_eq_whole_iff, Dialect.quoteName, String.toList_ofList]
  decide

end TableQuery
