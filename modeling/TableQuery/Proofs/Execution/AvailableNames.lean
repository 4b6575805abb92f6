import TableQuery.Execution.Diagnosis
import TableQuery.Proofs.Text.LoweredTexts
import TableQuery.Sql.Dialect

namespace TableQuery

/-- How the engine of a dialect says that a statement names a column that is not there. -/
def Dialect.missingColumn (d : Dialect) (name : String) : String :=
  match d with
  | .sqlite => "no such column: " ++ name
  | .postgres => "column \"" ++ name ++ "\" does not exist (SQLSTATE 42703)"
  | .mysql => "Unknown column '" ++ name ++ "' in 'field list'"

def Dialect.missingTable (d : Dialect) (name : String) : String :=
  match d with
  | .sqlite => "no such table: " ++ name
  | .postgres => "relation \"" ++ name ++ "\" does not exist (SQLSTATE 42P01)"
  | .mysql => "Table '" ++ name ++ "' doesn't exist"

namespace Diagnosis

open Text

/-- The name of a column holds, in any case, words that a missing table is known by. Where the
message itself says that something does not exist, fewer words are enough. -/
def soundsLikeTable (d : Dialect) (column : String) : Bool :=
  let lower := lowercase column
  contains lower "no such table" ||
    (contains lower "relation" && (contains lower "does not exist" || d = .postgres))

section Columns

variable (d : Dialect) {name : String}

theorem lowered_missingColumn (name : String) :
    lowered (d.missingColumn name).toList =
      match d with
      | .sqlite => "no such column".toList ++ ':' :: ([' '] ++ lowered name.toList)
      | .postgres =>
        "column ".toList ++ '"' :: (lowered name.toList ++
          '"' :: " does not exist (sqlstate 42703)".toList)
      | .mysql =>
        "unknown column ".toList ++ '\x27' :: (lowered name.toList ++
          '\x27' :: (" in ".toList ++ '\x27' :: ("field list".toList ++ ['\x27']))) := by
  have hl (s t : String) : lowered (s ++ t).toList = lowered s.toList ++ lowered t.toList := by
    rw [String.toList_append, lowered_append]
  cases d with
  | sqlite =>
      have hs : lowered "no such column: ".toList = "no such column".toList ++ [':', ' '] := by
        decide +kernel
      change lowered ("no such column: " ++ name).toList = _
      rw [hl, hs, List.append_assoc]
      rfl
  | postgres =>
      have hs : lowered "column \"".toList = "column ".toList ++ ['"'] := by decide +kernel
      have he : lowered "\" does not exist (SQLSTATE 42703)".toList =
          '"' :: " does not exist (sqlstate 42703)".toList := by
        decide +kernel
      change lowered ("column \"" ++ name ++ "\" does not exist (SQLSTATE 42703)").toList = _
      rw [hl, hl, hs, he, List.append_assoc, List.append_assoc]
      rfl
  | mysql =>
      have hs : lowered "Unknown column '".toList = "unknown column ".toList ++ ['\x27'] := by
        decide +kernel
      have he : lowered "' in 'field list'".toList =
          '\x27' :: (" in ".toList ++ '\x27' :: ("field list".toList ++ ['\x27'])) := by
        decide +kernel
      change lowered ("Unknown column '" ++ name ++ "' in 'field list'").toList = _
      rw [hl, hl, hs, he, List.append_assoc, List.append_assoc]
      rfl

theorem or_or_iff_of_imp {e l : Prop} (h : e → l) (a b : Prop) :
    a ∨ l ∨ b ↔ l ∨ a ∨ e ∨ b := by
  tauto

theorem contains_missingColumn_iff (name part : String)
    (hw : part.toList.all (fun c => c.isLower || c = ' ') = true)
    (hb : part.toList.head? ≠ some ' ') :
    contains (lowercase (d.missingColumn name)) part = true ↔
      contains (lowercase name) part = true ∨
        contains (lowercase (d.missingColumn "")) part = true := by
  have habsent {c : Char} (hc : (c.isLower || c = ' ') = false) : c ∉ part.toList := by
    intro hm
    rw [List.all_eq_true.mp hw c hm] at hc
    cases hc
  have hcolon : ':' ∉ part.toList := habsent (by decide)
  have hdouble : '"' ∉ part.toList := habsent (by decide)
  have hsingle : '\x27' ∉ part.toList := habsent (by decide)
  have hsigma : 'σ' ∉ part.toList := habsent (by decide)
  have hfinal : 'ς' ∉ part.toList := habsent (by decide)
  simp only [contains_lowercase_iff hsigma hfinal, lowered_missingColumn]
  have hempty : part.toList <:+: lowered "".toList → part.toList <:+: lowered name.toList :=
    fun h => h.trans List.nil_infix
  cases d with
  | sqlite =>
      have hblank (cs : List Char) : part.toList <:+: [' '] ++ cs ↔ part.toList <:+: cs := by
        rw [List.singleton_append, List.infix_cons_iff]
        refine or_iff_right_of_imp fun h => ?_
        rcases List.prefix_cons_iff.mp h with h | ⟨t, h, -⟩
        · rw [h]
          exact List.nil_infix
        · rw [h] at hb
          exact absurd rfl hb
      simp only [infix_around_iff hcolon, hblank]
      simpa only [or_false] using or_or_iff_of_imp hempty _ False
  | postgres =>
      simp only [infix_around_iff hdouble]
      exact or_or_iff_of_imp hempty _ _
  | mysql =>
      simp only [infix_around_iff hsingle]
      exact or_or_iff_of_imp hempty _ _

theorem contains_missingColumn_apostrophe (hq : '\x27' ∉ name.toList) :
    contains (lowercase (d.missingColumn name)) "doesn't exist" = false := by
  have hname : '\x27' ∉ lowered name.toList := not_mem_lowered (by decide) hq
  rw [Bool.eq_false_iff, ne_eq, contains_lowercase_iff (by decide) (by decide),
    lowered_missingColumn]
  have hpart : "doesn't exist".toList = "doesn".toList ++ '\x27' :: "t exist".toList := by decide
  have habsent {cs : List Char} (h : '\x27' ∉ cs) : ¬"doesn't exist".toList <:+: cs :=
    fun hi => h (hi.subset (by decide))
  cases d with
  | sqlite => exact habsent (by simp [hname])
  | postgres => exact habsent (by simp [hname])
  | mysql =>
      -- before an apostrophe of the message there is no `doesn`, or after it no `t exist`
      have hend : ¬"doesn".toList <:+ "unknown column ".toList := by decide
      have hstart : ¬"t exist".toList <+:
          " in ".toList ++ '\x27' :: ("field list".toList ++ ['\x27']) := by
        decide
      have hrest : ¬"doesn't exist".toList <:+:
          " in ".toList ++ '\x27' :: ("field list".toList ++ ['\x27']) := by
        decide
      rw [hpart] at hrest habsent ⊢
      rw [infix_over_iff (by decide) (by decide), infix_over_iff (by decide) (by decide)]
      rintro (h | (h | h | ⟨-, h⟩) | ⟨h, -⟩)
      · exact habsent (by decide) h
      · exact habsent hname h
      · exact hrest h
      · exact hstart h
      · exact hend h

theorem missesTable_missingColumn (hq : '\x27' ∉ name.toList) :
    missesTable (lowercase (d.missingColumn name)) = soundsLikeTable d name := by
  have htable : contains (lowercase (d.missingColumn "")) "no such table" = false := by
    cases d <;> decide +kernel
  have hrelation : contains (lowercase (d.missingColumn "")) "relation" = false := by
    cases d <;> decide +kernel
  have hexist : contains (lowercase (d.missingColumn "")) "does not exist" =
      decide (d = .postgres) := by
    cases d <;> decide +kernel
  rw [Bool.eq_iff_iff]
  unfold missesTable soundsLikeTable
  simp only [Bool.or_eq_true, Bool.and_eq_true, contains_missingColumn_apostrophe d hq]
  rw [contains_missingColumn_iff d name "no such table" (by decide) (by decide), htable,
    contains_missingColumn_iff d name "relation" (by decide) (by decide), hrelation,
    contains_missingColumn_iff d name "does not exist" (by decide) (by decide), hexist]
  simp

theorem missesColumn_missingColumn (name : String) :
    missesColumn (lowercase (d.missingColumn name)) = true := by
  unfold missesColumn
  cases d with
  | sqlite =>
      have h : contains (lowercase (Dialect.sqlite.missingColumn name)) "no such column" = true :=
        contains_lowercase_append (by decide) (by decide) (.inl (by decide +kernel))
      simp [h]
  | postgres =>
      have hc : contains (lowercase (Dialect.postgres.missingColumn name)) "column" = true :=
        contains_lowercase_framed name (by decide) (by decide) (.inl (by decide +kernel))
      have he : contains (lowercase (Dialect.postgres.missingColumn name)) "does not exist" =
          true :=
        contains_lowercase_framed name (by decide) (by decide) (.inr (by decide +kernel))
      simp [hc, he]
  | mysql =>
      have h : contains (lowercase (Dialect.mysql.missingColumn name)) "unknown column" = true :=
        contains_lowercase_framed name (by decide) (by decide) (.inl (by decide +kernel))
      simp [h]

theorem missesTable_missingTable (name : String) :
    missesTable (lowercase (d.missingTable name)) = true := by
  unfold missesTable
  cases d with
  | sqlite =>
      have h : contains (lowercase (Dialect.sqlite.missingTable name)) "no such table" = true :=
        contains_lowercase_append (by decide) (by decide) (.inl (by decide +kernel))
      simp [h]
  | postgres =>
      have hr : contains (lowercase (Dialect.postgres.missingTable name)) "relation" = true :=
        contains_lowercase_framed name (by decide) (by decide) (.inl (by decide +kernel))
      have he : contains (lowercase (Dialect.postgres.missingTable name)) "does not exist" = true :=
        contains_lowercase_framed name (by decide) (by decide) (.inr (by decide +kernel))
      simp [hr, he]
  | mysql =>
      have h : contains (lowercase (Dialect.mysql.missingTable name)) "doesn't exist" = true :=
        contains_lowercase_framed name (by decide) (by decide) (.inr (by decide +kernel))
      simp [h]

end Columns

section Hints

variable {schema : Schema} {table : String}

theorem tableHint_eq (schema : Schema) : ∃ names,
    (tableHint schema).toList = ". Available tables: ".toList ++ names :=
  ⟨_, String.toList_append⟩

theorem columnHint_eq (t : Table) : ∃ names,
    (columnHint t).toList = ". Available columns in ".toList ++ names := by
  refine ⟨(t.name ++ (": " ++ ", ".intercalate t.columnNames)).toList, ?_⟩
  rw [← String.toList_append, ← String.append_assoc, ← String.append_assoc]
  rfl

theorem columnHint_ne_tableHint (t : Table) : columnHint t ≠ tableHint schema := by
  intro h
  obtain ⟨cs, hc⟩ := columnHint_eq t
  obtain ⟨ts, ht⟩ := tableHint_eq schema
  have hsame : ". Available columns in ".toList ++ cs = ". Available tables: ".toList ++ ts := by
    rw [← hc, ← ht, h]
  have htake := congrArg (List.take 13) hsame
  rw [List.take_append_of_le_length (by decide), List.take_append_of_le_length (by decide)] at htake
  exact absurd htake (by decide)

theorem tableHint_ne_empty : tableHint schema ≠ "" := by
  intro h
  obtain ⟨ts, ht⟩ := tableHint_eq schema
  rw [h] at ht
  exact absurd ht (List.cons_ne_nil _ _).symm

theorem columnHint_ne_empty (t : Table) : columnHint t ≠ "" := by
  intro h
  obtain ⟨cs, hc⟩ := columnHint_eq t
  rw [h] at hc
  exact absurd hc (List.cons_ne_nil _ _).symm

/-- A message gets the tables, the columns or nothing. -/
theorem hint_eq {t : Table} (ht : schema.table? table = some t) (message : String) :
    hint schema table message =
      if missesTable (lowercase message) then tableHint schema
      else if missesColumn (lowercase message) then columnHint t
      else "" := by
  simp [hint, ht]

end Hints
end Diagnosis

namespace Failure

open Diagnosis

variable {schema : Schema} {table : String}

theorem withNames_engine (message : String) :
    withNames schema table ⟨.engine, message⟩ =
      ⟨.engine, message ++ hint schema table message⟩ := rfl

theorem withNames_eq_self_iff {t : Table} (ht : schema.table? table = some t) (f : Failure) :
    withNames schema table f = f ↔
      f.kind ≠ .engine ∨ (missesTable (Text.lowercase f.message) = false ∧
        missesColumn (Text.lowercase f.message) = false) := by
  by_cases hk : f.kind = .engine
  · obtain ⟨kind, message⟩ := f
    obtain rfl : kind = .engine := hk
    have he : withNames schema table ⟨.engine, message⟩ = ⟨.engine, message⟩ ↔
        hint schema table message = "" := by
      simp [withNames_engine]
    rw [he, hint_eq ht]
    split
    · simp_all [tableHint_ne_empty]
    · split <;> simp_all [columnHint_ne_empty]
  · simp [withNames, hk]

end Failure

/-- Messages about a missing table get the names of the tables. Those about a missing column get the
columns of the queried table, unless the name that is missing sounds like a message about a table:
then they get the tables as well. Whatever is added comes after the message, and nothing is added to
failures of other kinds and to messages without these words. -/
theorem available_names_iff (schema : Schema) (t : Table) (ht : schema.table? t.name = some t)
    (d : Dialect) (name : String) (hq : '\x27' ∉ name.toList) :
    Failure.withNames schema t.name ⟨.engine, d.missingTable name⟩ =
        ⟨.engine, d.missingTable name ++ Diagnosis.tableHint schema⟩ ∧
      (Failure.withNames schema t.name ⟨.engine, d.missingColumn name⟩ =
          ⟨.engine, d.missingColumn name ++ Diagnosis.columnHint t⟩ ↔
        Diagnosis.soundsLikeTable d name = false) ∧
      (Diagnosis.soundsLikeTable d name = true →
        Failure.withNames schema t.name ⟨.engine, d.missingColumn name⟩ =
          ⟨.engine, d.missingColumn name ++ Diagnosis.tableHint schema⟩) ∧
      (∀ f, (Failure.withNames schema t.name f).kind = f.kind ∧
        ∃ added, (Failure.withNames schema t.name f).message = f.message ++ added) ∧
      ∀ f, Failure.withNames schema t.name f = f ↔
        f.kind ≠ .engine ∨ (Diagnosis.missesTable (Text.lowercase f.message) = false ∧
          Diagnosis.missesColumn (Text.lowercase f.message) = false) := by
  have hcolumn : Diagnosis.hint schema t.name (d.missingColumn name) =
      if Diagnosis.soundsLikeTable d name then Diagnosis.tableHint schema
      else Diagnosis.columnHint t := by
    rw [Diagnosis.hint_eq ht, Diagnosis.missesTable_missingColumn d hq,
      Diagnosis.missesColumn_missingColumn, if_pos rfl]
  refine ⟨?_, ?_, ?_, ?_, Failure.withNames_eq_self_iff ht⟩
  · rw [Failure.withNames_engine, Diagnosis.hint_eq ht, Diagnosis.missesTable_missingTable,
      if_pos rfl]
  · rw [Failure.withNames_engine, hcolumn]
    cases Diagnosis.soundsLikeTable d name with
    | false => simp
    | true => simp [(Diagnosis.columnHint_ne_tableHint t).symm]
  · intro h
    rw [Failure.withNames_engine, hcolumn, if_pos h]
  · intro f
    unfold Failure.withNames
    split
    · exact ⟨rfl, _, rfl⟩
    · exact ⟨rfl, "", by simp⟩

/-- Sales by region, with a column for their correlation. -/
def correlationTable : Table :=
  ⟨"sales", [⟨"region", "TEXT", true⟩, ⟨"correlation", "REAL", true⟩]⟩

theorem missing_amount_enriched :
    Schema.table? ⟨[correlationTable], []⟩ "sales" = some correlationTable ∧
      '\x27' ∉ "amount".toList ∧
      Failure.withNames ⟨[correlationTable], []⟩ "sales"
          ⟨.engine, "column \"amount\" does not exist (SQLSTATE 42703)"⟩ =
        ⟨.engine, "column \"amount\" does not exist (SQLSTATE 42703)" ++
          ". Available columns in sales: region, correlation"⟩ := by
  have hq : '\x27' ∉ "amount".toList := by decide
  refine ⟨rfl, hq, ?_⟩
  have h := available_names_iff ⟨[correlationTable], []⟩ correlationTable rfl .postgres "amount" hq
  exact h.2.1.mpr (by decide +kernel)

/-- A column called `correlation` holds the word `relation`, by which missing tables are known. -/
theorem missing_correlation_misread :
    Failure.withNames ⟨[correlationTable], []⟩ "sales"
        ⟨.engine, "column \"correlation\" does not exist (SQLSTATE 42703)"⟩ =
      ⟨.engine, "column \"correlation\" does not exist (SQLSTATE 42703)" ++
        ". Available tables: sales"⟩ ∧
    Failure.withNames ⟨[correlationTable], []⟩ "sales"
        ⟨.engine, "column \"correlation\" does not exist (SQLSTATE 42703)"⟩ ≠
      ⟨.engine, "column \"correlation\" does not exist (SQLSTATE 42703)" ++
        ". Available columns in sales: region, correlation"⟩ := by
  decide +kernel

end TableQuery
