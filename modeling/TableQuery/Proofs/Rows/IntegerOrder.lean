import TableQuery.Proofs.Rows.Extremes
import TableQuery.Proofs.Rows.FloatRounding
import TableQuery.Proofs.Rows.HavingTruth

namespace TableQuery

open Rounding Sql

/-- An integer that is read as one: signed or unsigned, of 64 bits. -/
def InWord (n : Int) : Prop := -2 ^ 63 ≤ n ∧ n < 2 ^ 64

theorem InWord.whole {n : Int} (h : InWord n) : Whole (intToFloat n).toModel.unpack (nearest n) := by
  obtain ⟨hl, hu⟩ := h
  exact whole_intToFloat (by omega)

section Numbers

variable {a b : Int} (ha : InWord a) (hb : InWord b)

include ha hb

theorem compareFloats_intToFloat :
    Cell.compareFloats (intToFloat a) (intToFloat b) = compare (nearest a) (nearest b) := by
  have hx := ha.whole
  have hy := hb.whole
  rw [Decimal.compareFloats_eq (isFinite_of_whole hx) (isFinite_of_whole hy), valueOf_of_whole hx,
    valueOf_of_whole hy]
  rcases lt_trichotomy (nearest a) (nearest b) with h | h | h
  · rw [compare_lt_iff_lt.mpr h, compare_lt_iff_lt.mpr (by exact_mod_cast h)]
  · rw [compare_eq_iff_eq.mpr h, compare_eq_iff_eq.mpr (by exact_mod_cast h)]
  · rw [compare_gt_iff_gt.mpr h, compare_gt_iff_gt.mpr (by exact_mod_cast h)]

theorem compare_integers :
    Cell.compare (some (.int a)) (some (.int b)) = compare (nearest a) (nearest b) := by
  rw [← compareFloats_intToFloat ha hb]
  rfl

theorem equal_integers_iff : Cell.equal (.int a) (.int b) = true ↔ nearest a = nearest b := by
  have hx := ha.whole
  have hy := hb.whole
  change (intToFloat a == intToFloat b) = true ↔ _
  rw [Decimal.beq_iff_valueOf_eq (isFinite_of_whole hx) (isFinite_of_whole hy),
    valueOf_of_whole hx, valueOf_of_whole hy, Int.cast_inj]

end Numbers

theorem compare_nearest_eq_lt_iff {a b : Int} (hab : a < b) :
    compare (nearest a) (nearest b) = .lt ↔ nearest a ≠ nearest b := by
  rw [compare_lt_iff_lt]
  exact (nearest_mono hab.le).lt_iff_ne

/-- Where one of two integers and its neighbours are exact, the other does not round to it. -/
theorem nearest_ne {a b : Int} (hab : a < b) (h : a.natAbs < 2 ^ 53 ∨ b.natAbs < 2 ^ 53) :
    nearest a ≠ nearest b := by
  apply ne_of_lt
  rcases h with h | h
  · calc nearest a = a := nearest_of_le h.le
      _ < a + 1 := Int.lt_succ a
      _ = nearest (a + 1) := (nearest_of_le (by omega)).symm
      _ ≤ nearest b := nearest_mono hab
  · calc nearest a ≤ nearest (b - 1) := nearest_mono (by omega)
      _ = b - 1 := nearest_of_le (by omega)
      _ < b := Int.sub_one_lt_of_le (Int.le_refl b)
      _ = nearest b := (nearest_of_le h.le).symm

namespace Filter

def Compares (f : Filter) (r : Row) (a b : Int) : Prop :=
  f.cell r = some (.int a) ∧
    (f.value = some (.int b) ∨ f.op = .isIn ∧ f.value = some (.arr [.int b]))

section Integers

variable {f : Filter} {r : Row} {a b : Int} (ha : InWord a) (hb : InWord b)

include ha hb

theorem order?_integers :
    order? true (.int a) (.int b) = some (compare (nearest a) (nearest b)) :=
  congrArg some (compareFloats_intToFloat ha hb)

theorem compares_integer (relation : Relation) (absent : Bool) (hv : f.value = some (.int b)) :
    f.compares relation.test absent (some (.int a)) =
      relation.test (compare (nearest a) (nearest b)) := by
  have hn : f.isNumeric = true := by simp [isNumeric, hv, Json.isNumber]
  simp [compares, hv, hn, order?_integers ha hb, holdsOf]

theorem listed_integer (hv : Condition.operandItems f.value = [.int b]) :
    f.listed true (some (.int a)) = true ↔ nearest a = nearest b := by
  have hnull : (Json.int a).isNull = false := rfl
  rw [listed_of_present hnull, hv, isMember, List.any_cons, List.any_nil, Bool.or_false,
    order?_integers ha hb]
  cases f.isNumeric with
  | true => simp [holdsOf]
  | false => simpa using equal_integers_iff ha hb

theorem holds_integer_iff (hab : a < b) (h : f.Compares r a b) :
    (f.op = .lt ∨ f.op = .notEq → (f.holds r = true ↔ nearest a ≠ nearest b)) ∧
      (f.op = .eq ∨ f.op = .isIn → (f.holds r = false ↔ nearest a ≠ nearest b)) := by
  obtain ⟨hcell, hv⟩ := h
  have hvalue (hop : f.op ≠ .isIn) : f.value = some (.int b) := hv.resolve_right fun h => hop h.1
  have hitems : Condition.operandItems f.value = [.int b] := by
    rcases hv with hv | ⟨-, hv⟩ <;> rw [hv] <;> rfl
  have hlt := compare_nearest_eq_lt_iff hab
  refine ⟨?_, ?_⟩
  · rintro (hop | hop) <;> simp only [holds, hop, hcell]
    · refine (Eq.congr_left (compares_integer ha hb .lt _ (hvalue (by simp [hop])))).trans ?_
      simpa [Relation.test] using hlt
    · refine (Eq.congr_left (compares_integer ha hb .notEq _ (hvalue (by simp [hop])))).trans ?_
      simp [Relation.test]
  · rintro (hop | hop) <;> simp only [holds, hop, hcell]
    · refine (Eq.congr_left (compares_integer ha hb .eq _ (hvalue (by simp [hop])))).trans ?_
      simp [Relation.test]
    · rw [← Bool.not_eq_true, listed_integer ha hb hitems]

end Integers

end Filter

namespace Aggregate

/-- The aggregate's column has the integers `ns` in the rows, and nothing else but nulls. -/
structure OverIntegers (a : AggregateField) (rows : List Row) (ns : List Int) : Prop where
  column : a.countsRows = false
  cells : values (outputName a.field) rows = ns.map .int

section First

variable {order : Json → Json → Ordering} {key : Int → Int} {v k : Int}

theorem find?_winner {n n' : Int} (hn : v ≤ key n) (hn' : v ≤ key n') (rest : List Int) :
    (n :: n' :: rest).find? (fun x => key x = v) =
      ((if key n' < key n then n' else n) :: rest).find? (fun x => key x = v) := by
  split
  · next h => exact List.find?_cons_of_neg (by simp; omega)
  · next h =>
      by_cases hk : key n = v
      · simp [hk]
      · have hk' : key n' ≠ v := by omega
        simp [hk, hk']

/-- Among cells that stand as their keys do, the first one with the least key is taken. -/
theorem first_eq_iff_find? {ns : List Int} (hle : ∀ n ∈ ns, v ≤ key n) (hv : ∃ n ∈ ns, key n = v)
    (horder : ∀ m ∈ ns, ∀ n ∈ ns, order (.int m) (.int n) = compare (key m) (key n)) :
    first order (ns.map .int) = .int k ↔ ns.find? (fun n => key n = v) = some k := by
  have hfound {ns : List Int} :
      (∃ n ∈ ns, key n = v) ↔ (ns.find? fun n => key n = v).isSome := by simp
  cases ns with
  | nil => simp at hv
  | cons n rest =>
      induction rest generalizing n with
      | nil =>
          have hn : key n = v := by simpa using hv
          simp [first, hn]
      | cons n' rest ih =>
          -- On both sides the better one of the first two cells takes the place of the two.
          have hwinner := find?_winner (hle n (by simp)) (hle n' (by simp)) rest
          have hstep : first order ((n :: n' :: rest).map .int) =
              first order (((if key n' < key n then n' else n) :: rest).map .int) := by
            simp only [List.map_cons, first_cons_cons, horder n' (by simp) n (by simp),
              compare_lt_iff_lt, apply_ite Json.int]
          have hsub : ∀ x ∈ (if key n' < key n then n' else n) :: rest, x ∈ n :: n' :: rest := by
            simp only [List.mem_cons]
            split <;> tauto
          rw [hfound, hwinner, ← hfound] at hv
          rw [hstep, hwinner]
          exact ih _ (fun x hx => hle x (hsub x hx)) hv
            fun x hx y hy => horder x (hsub x hx) y (hsub y hy)

end First

section Extremes

variable {a : AggregateField} {rows : List Row} {ns : List Int} (h : OverIntegers a rows ns)
  (hns : ∀ n ∈ ns, InWord n) {m k : Int}

include h

theorem OverIntegers.numeric : Numeric (values (outputName a.field) rows) := by
  rw [h.cells]
  intro j hj
  obtain ⟨n, -, rfl⟩ := List.mem_map.mp hj
  rfl

include hns

theorem compute_min_iff (hf : a.function = .min) (hm : IsLeast {n | n ∈ ns} m) :
    compute a rows = .int k ↔ ns.find? (fun n => nearest n = nearest m) = some k := by
  have ho : orderFor? (values (outputName a.field) rows) a.function =
      some fun x y => Cell.compare (some x) (some y) := by
    rw [hf, orderFor?, extremeOrder_of_numeric h.numeric]
  rw [compute_of_order h.column ho, h.cells]
  exact first_eq_iff_find? (fun n hn => nearest_mono (hm.2 hn)) ⟨m, hm.1, rfl⟩
    fun x hx y hy => compare_integers (hns x hx) (hns y hy)

theorem compute_max_iff (hf : a.function = .max) (hm : IsGreatest {n | n ∈ ns} m) :
    compute a rows = .int k ↔ ns.find? (fun n => nearest n = nearest m) = some k := by
  have ho : orderFor? (values (outputName a.field) rows) a.function =
      some fun x y => Cell.compare (some y) (some x) := by
    rw [hf, orderFor?, extremeOrder_of_numeric h.numeric]
  have hkey : (fun n => decide (nearest n = nearest m)) =
      fun n => decide (-nearest n = -nearest m) := by
    simp
  rw [compute_of_order h.column ho, h.cells, hkey]
  refine first_eq_iff_find? (fun n hn => neg_le_neg (nearest_mono (hm.2 hn))) ⟨m, hm.1, rfl⟩
    fun x hx y hy => ?_
  rw [compare_integers (hns y hy) (hns x hx), FloatOrder.compare_neg]

end Extremes

end Aggregate

/-- Different integers are told apart by order, by equality and by filters exactly where they round
apart, and the extreme of a group is the first cell that rounds as the extreme integer does. All is
well below `2 ^ 53`. -/
theorem integers_told_apart_iff {a b : Int} (hab : a < b) (ha : -2 ^ 63 ≤ a) (hb : b < 2 ^ 64) :
    (Cell.compare (some (.int a)) (some (.int b)) = .lt ↔ nearest a ≠ nearest b) ∧
      (Cell.equal (.int a) (.int b) = false ↔ nearest a ≠ nearest b) ∧
      (∀ (f : Filter) (r : Row), f.Compares r a b →
        (f.op = .lt ∨ f.op = .notEq → (f.holds r = true ↔ nearest a ≠ nearest b)) ∧
          (f.op = .eq ∨ f.op = .isIn → (f.holds r = false ↔ nearest a ≠ nearest b))) ∧
      (∀ (g : AggregateField) (rows : List Row) (ns : List Int) (m k : Int),
        Aggregate.OverIntegers g rows ns → (∀ n ∈ ns, InWord n) →
        g.function = .min ∧ IsLeast {n | n ∈ ns} m ∨ g.function = .max ∧ IsGreatest {n | n ∈ ns} m →
          (Aggregate.compute g rows = .int k ↔
            ns.find? (fun n => nearest n = nearest m) = some k)) ∧
      (a.natAbs < 2 ^ 53 ∨ b.natAbs < 2 ^ 53 → nearest a ≠ nearest b) := by
  have hwa : InWord a := ⟨ha, by omega⟩
  have hwb : InWord b := ⟨by omega, hb⟩
  refine ⟨?_, ?_, fun f r h => f.holds_integer_iff hwa hwb hab h, ?_, nearest_ne hab⟩
  · rw [compare_integers hwa hwb]
    exact compare_nearest_eq_lt_iff hab
  · rw [← Bool.not_eq_true, equal_integers_iff hwa hwb]
  · rintro g rows ns m k h hns (⟨hf, hm⟩ | ⟨hf, hm⟩)
    · exact Aggregate.compute_min_iff h hns hf hm
    · exact Aggregate.compute_max_iff h hns hf hm

def filterOnX (op : FilterOp) (n : Int) : Filter := ⟨"x", op, some (.int n)⟩

def leastX : AggregateField := ⟨"x", .min, "low", none⟩

def rowOfX (n : Int) : Row := ⟨[("x", .int n)]⟩

theorem one_two_told_apart :
    Cell.compare (some (.int 1)) (some (.int 2)) = .lt ∧ Cell.equal (.int 1) (.int 2) = false ∧
      (filterOnX .lt 2).holds (rowOfX 1) = true ∧
      Aggregate.compute leastX [rowOfX 2, rowOfX 1] = .int 1 := by
  obtain ⟨hcompare, hequal, hfilter, hextreme, hexact⟩ :=
    integers_told_apart_iff (a := 1) (b := 2) (by decide) (by decide) (by decide)
  have hne := hexact (.inl (by decide))
  have hleast : IsLeast {n | n ∈ [(2 : Int), 1]} 1 := ⟨by simp, by simp [lowerBounds]⟩
  refine ⟨hcompare.mpr hne, hequal.mpr hne, ?_, ?_⟩
  · exact ((hfilter (filterOnX .lt 2) (rowOfX 1) ⟨rfl, .inl rfl⟩).1 (.inl rfl)).mpr hne
  · exact (hextreme leastX [rowOfX 2, rowOfX 1] [2, 1] 1 1 ⟨rfl, rfl⟩ (by simp [InWord])
      (.inl ⟨rfl, hleast⟩)).mpr (by decide)

/-- Beyond `2 ^ 53`, two integers stand level for every comparison, and the greater of them is the
least of both. -/
theorem large_integers_level :
    let a := 9007199254740992
    let b := 9007199254740993
    Cell.compare (some (.int a)) (some (.int b)) = .eq ∧ Cell.equal (.int a) (.int b) = true ∧
      (filterOnX .lt b).holds (rowOfX a) = false ∧ (filterOnX .notEq b).holds (rowOfX a) = false ∧
      (filterOnX .eq b).holds (rowOfX a) = true ∧ (filterOnX .isIn b).holds (rowOfX a) = true ∧
      Aggregate.compute leastX [rowOfX b, rowOfX a] = .int b :=
  ⟨by decide +kernel, by decide +kernel, by decide +kernel, by decide +kernel, by decide +kernel,
    by decide +kernel, rfl⟩

end TableQuery
