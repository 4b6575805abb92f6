import TableQuery.Proofs.Csv.KeptCells
import TableQuery.Proofs.Decimal.IntegerTexts

namespace TableQuery.Csv.ColumnType

/-- Goes on from the type that the cells before have. A cell that is no integer makes a column of
integers one of numbers, without another look at those cells, and one that is no number ends the
reading. -/
def readOn : ColumnType → List String → ColumnType
  | type, [] => type
  | type, cell :: rest =>
    let chars := Text.trimChars cell.toList
    if chars.isEmpty then readOn type rest
    else
      let type := if type = .integer ∧ (integer? chars).isNone then .real else type
      if type = .real ∧ (Decimal.readFloat chars).isNone then .text else readOn type rest

instance (type : ColumnType) (cell : String) : Decidable (type.Reads cell) :=
  match type with
  | .integer => inferInstanceAs (Decidable (Option.isSome _ = true))
  | .real => inferInstanceAs (Decidable (Option.isSome _ = true))
  | .text => .isTrue trivial

/-- Every cell that is not blank has a value of the type. -/
def Admits (type : ColumnType) (cells : List String) : Prop :=
  ∀ cell ∈ cells, isBlankCell cell = false → type.Reads cell

instance (type : ColumnType) (cells : List String) : Decidable (type.Admits cells) :=
  inferInstanceAs (Decidable (∀ cell ∈ cells, _))

section Admits

variable {type : ColumnType} {cell : String} {cells others : List String}

theorem reads_real_of_integer (h : integer.Reads cell) : real.Reads cell := by
  cases hr : Decimal.IntegerRange.int64.read (Text.trimChars cell.toList) with
  | error e =>
      simp only [Reads, integer?, hr] at h
      cases h
  | ok n => exact Decimal.isSome_readFloat_of_read hr

theorem admits_cons_of_blank (hb : isBlankCell cell = true) :
    type.Admits (cell :: cells) ↔ type.Admits cells := by
  simp [Admits, hb]

theorem admits_cons_of_filled (hb : isBlankCell cell = false) :
    type.Admits (cell :: cells) ↔ type.Reads cell ∧ type.Admits cells := by
  simp [Admits, hb]

theorem admits_of_subset (hsubset : ∀ cell ∈ others, isBlankCell cell = false → cell ∈ cells)
    (h : type.Admits cells) : type.Admits others :=
  fun cell hm hb => h cell (hsubset cell hm hb) hb

theorem all_filled_iff {p : List Char → Bool} :
    ((cells.map fun c => Text.trimChars c.toList).filter fun c => !c.isEmpty).all p = true ↔
      ∀ cell ∈ cells, isBlankCell cell = false → p (Text.trimChars cell.toList) = true := by
  simp only [List.all_filter, List.all_map, List.all_eq_true, Function.comp_apply, isBlankCell,
    Bool.not_not, Bool.or_eq_true]
  refine forall₂_congr fun cell _ => ?_
  cases (Text.trimChars cell.toList).isEmpty <;> simp

/-- The declared rule. -/
theorem ofCells_eq (cells : List String) : ofCells cells =
    if integer.Admits cells then .integer else if real.Admits cells then .real else .text := by
  have hinteger : (((cells.map fun c => Text.trimChars c.toList).filter fun c => !c.isEmpty).all
      fun c => (integer? c).isSome) = true ↔ integer.Admits cells := all_filled_iff
  have hreal : (((cells.map fun c => Text.trimChars c.toList).filter fun c => !c.isEmpty).all
      fun c => (Decimal.readFloat c).isSome) = true ↔ real.Admits cells := all_filled_iff
  simp only [ofCells, hinteger, hreal]

theorem ofCells_congr (h : ∀ cell, isBlankCell cell = false → (cell ∈ others ↔ cell ∈ cells)) :
    ofCells others = ofCells cells := by
  have hadmits (type : ColumnType) : type.Admits others ↔ type.Admits cells :=
    ⟨admits_of_subset fun cell hm hb => (h cell hb).mpr hm,
      admits_of_subset fun cell hm hb => (h cell hb).mp hm⟩
  simp only [ofCells_eq, hadmits]

end Admits

section Reading

variable {cell : String} {cells : List String}

theorem readOn_of_blank {type : ColumnType} (hb : isBlankCell cell = true) :
    readOn type (cell :: cells) = readOn type cells := by
  rw [isBlankCell] at hb
  simp [readOn, hb]

theorem readOn_integer_of_filled (hb : isBlankCell cell = false) :
    readOn .integer (cell :: cells) = if integer.Reads cell then readOn .integer cells
      else if real.Reads cell then readOn .real cells else .text := by
  rw [isBlankCell] at hb
  cases hi : integer? (Text.trimChars cell.toList) <;>
    cases hr : Decimal.readFloat (Text.trimChars cell.toList) <;>
      simp [readOn, hb, Reads, hi, hr]

theorem readOn_real_of_filled (hb : isBlankCell cell = false) :
    readOn .real (cell :: cells) = if real.Reads cell then readOn .real cells else .text := by
  rw [isBlankCell] at hb
  cases hr : Decimal.readFloat (Text.trimChars cell.toList) <;> simp [readOn, hb, Reads, hr]

theorem readOn_real (cells : List String) :
    readOn .real cells = if real.Admits cells then .real else .text := by
  induction cells with
  | nil => rfl
  | cons cell cells ih =>
      cases hb : isBlankCell cell with
      | true => simp only [readOn_of_blank hb, ih, admits_cons_of_blank hb]
      | false =>
          rw [readOn_real_of_filled hb, ih]
          by_cases hr : real.Reads cell <;> simp [admits_cons_of_filled hb, hr]

/-- The cells before were integers, and integers are numbers. -/
theorem readOn_integer (cells : List String) : readOn .integer cells = ofCells cells := by
  induction cells with
  | nil => rfl
  | cons cell cells ih =>
      rw [ofCells_eq] at ih ⊢
      cases hb : isBlankCell cell with
      | true => simp only [readOn_of_blank hb, ih, admits_cons_of_blank hb]
      | false =>
          rw [readOn_integer_of_filled hb, ih, readOn_real]
          by_cases hi : integer.Reads cell
          · simp [admits_cons_of_filled hb, hi, reads_real_of_integer hi]
          · by_cases hr : real.Reads cell <;> simp [admits_cons_of_filled hb, hi, hr]

end Reading

theorem convert_eq_null_iff {type : ColumnType} {cell : String}
    (h : isBlankCell cell = false → type.Reads cell) :
    convert type cell = .null ↔ isBlankCell cell = true := by
  unfold convert
  cases hb : isBlankCell cell with
  | true =>
      rw [isBlankCell] at hb
      simp [hb]
  | false =>
      have hr := h hb
      rw [isBlankCell] at hb
      cases type with
      | integer =>
          obtain ⟨n, hn⟩ := Option.isSome_iff_exists.mp hr
          simp [hb, hn]
      | real =>
          obtain ⟨x, hx⟩ := Option.isSome_iff_exists.mp hr
          simp [hb, hx]
      | text => simp [hb]

/-- Integers if all cells that are not blank are, otherwise numbers if they all are, otherwise
texts. Neither the order of the cells nor further blank ones matter. -/
theorem narrowest_type_found (cells : List String) :
    let type : ColumnType := ofCells cells
    readOn .integer cells = type ∧
      (type = .integer ↔ integer.Admits cells) ∧
      (type = .real ↔ ¬integer.Admits cells ∧ real.Admits cells) ∧
      (type = .text ↔ ¬integer.Admits cells ∧ ¬real.Admits cells) ∧
      (∀ blanks others, (∀ blank ∈ blanks, isBlankCell blank = true) →
        others.Perm (cells ++ blanks) → ofCells others = type) ∧
      ∀ cell ∈ cells, convert type cell = .null ↔ isBlankCell cell = true := by
  intro type
  have hrule : (type = .integer ↔ integer.Admits cells) ∧
      (type = .real ↔ ¬integer.Admits cells ∧ real.Admits cells) ∧
      (type = .text ↔ ¬integer.Admits cells ∧ ¬real.Admits cells) := by
    rw [show type = _ from ofCells_eq cells]
    by_cases hi : integer.Admits cells <;> by_cases hr : real.Admits cells <;> simp [hi, hr]
  refine ⟨readOn_integer cells, hrule.1, hrule.2.1, hrule.2.2, ?_, ?_⟩
  · intro blanks others hblanks hperm
    refine ofCells_congr fun cell hb => ?_
    have hnew : cell ∉ blanks := by
      intro hm
      rw [hblanks cell hm] at hb
      cases hb
    rw [hperm.mem_iff, List.mem_append, or_iff_left hnew]
  · exact fun cell hm => convert_eq_null_iff fun hb => reads_ofCells hb hm

end TableQuery.Csv.ColumnType
