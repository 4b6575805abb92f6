import TableQuery.Proofs.Rows.IntegerOrder

namespace TableQuery

open Rounding

namespace Rounding

def addRounded (t n : Int) : Int := nearest (t + nearest n)

/-- The sum as it is computed from left to right. -/
def roundedSum (ns : List Int) : Int := ns.foldl addRounded 0

variable {t n : Int} {ns : List Int}

theorem nearest_bounds {a b : Int} (hb : nearest b = b) (h : -b ≤ a ∧ a ≤ b) :
    -b ≤ nearest a ∧ nearest a ≤ b := by
  have hn : nearest (-b) = -b := by rw [nearest_neg, hb]
  exact ⟨hn ▸ nearest_mono h.1, hb ▸ nearest_mono h.2⟩

/-- From `2 ^ 118` on, no cell moves the sum any further: sums stay below what overflows. -/
theorem addRounded_bounds (ht : -2 ^ 118 ≤ t ∧ t ≤ 2 ^ 118) (hn : -2 ^ 64 ≤ n ∧ n ≤ 2 ^ 64) :
    -2 ^ 118 ≤ addRounded t n ∧ addRounded t n ≤ 2 ^ 118 := by
  have hlevel : nearest (2 ^ 118 + 2 ^ 64) = 2 ^ 118 := by decide +kernel
  have hcell := nearest_bounds (b := 2 ^ 64) (by decide +kernel) hn
  have hlow := nearest_mono (a := -(2 ^ 118 + 2 ^ 64)) (b := t + nearest n) (by omega)
  have hhigh := nearest_mono (a := t + nearest n) (b := 2 ^ 118 + 2 ^ 64) (by omega)
  rw [nearest_neg, hlevel] at hlow
  rw [hlevel] at hhigh
  exact ⟨hlow, hhigh⟩

theorem foldl_addRounded_eq (hp : ∀ p ∈ ns.inits, (t + p.sum).natAbs ≤ 2 ^ 53)
    (hn : ∀ n ∈ ns, n.natAbs ≤ 2 ^ 53) : ns.foldl addRounded t = t + ns.sum := by
  induction ns generalizing t with
  | nil => simp
  | cons n ns ih =>
      have hfirst : addRounded t n = t + n := by
        have ht := hp [n] (by simp [List.mem_inits])
        rw [List.sum_singleton] at ht
        rw [addRounded, nearest_of_le (hn n (by simp)), nearest_of_le ht]
      rw [List.foldl_cons, hfirst, List.sum_cons, ← Int.add_assoc]
      refine ih (fun p hpre => ?_) fun x hx => hn x (List.mem_cons_of_mem n hx)
      have hcons := hp (n :: p) (by simpa [List.mem_inits] using hpre)
      rwa [List.sum_cons, ← Int.add_assoc] at hcons

theorem roundedSum_eq_sum (hp : ∀ p ∈ ns.inits, p.sum.natAbs ≤ 2 ^ 53)
    (hn : ∀ n ∈ ns, n.natAbs ≤ 2 ^ 53) : roundedSum ns = ns.sum := by
  have h := foldl_addRounded_eq (t := 0) (by simpa using hp) hn
  rwa [Int.zero_add] at h

/-- What the running total denotes, while cells are added to it. -/
theorem whole_foldl {x : Float} (hx : Whole x.toModel.unpack t)
    (ht : -2 ^ 118 ≤ t ∧ t ≤ 2 ^ 118) (hn : ∀ n ∈ ns, -2 ^ 64 ≤ n ∧ n ≤ 2 ^ 64) :
    Whole ((ns.map intToFloat).foldl (· + ·) x).toModel.unpack (ns.foldl addRounded t) := by
  induction ns generalizing x t with
  | nil => exact hx
  | cons n ns ih =>
      have hcell := hn n (by simp)
      have hnearest := nearest_bounds (b := 2 ^ 64) (by decide +kernel) hcell
      have hstep : Whole (x + intToFloat n).toModel.unpack (addRounded t n) :=
        whole_add hx (whole_intToFloat (by omega)) (by omega)
      exact ih hstep (addRounded_bounds ht hcell) fun m hm => hn m (List.mem_cons_of_mem n hm)

theorem whole_sum (hn : ∀ n ∈ ns, -2 ^ 64 ≤ n ∧ n ≤ 2 ^ 64) :
    Whole (Arithmetic.sum (ns.map intToFloat)).toModel.unpack (roundedSum ns) :=
  whole_foldl (.zero .negative) (by decide) hn

end Rounding

namespace Aggregate

section Sum

variable {a : AggregateField} {rows : List Row} {ns : List Int} (hf : a.function = .sum)
  (h : OverIntegers a rows ns)

include hf h

theorem compute_sum :
    compute a rows = numberOrNull (total (ns.map intToFloat)) := by
  have hnumbers : numbers (ns.map .int) = ns.map intToFloat := by
    rw [numbers, List.filterMap_map]
    exact congrFun List.filterMap_eq_map ns
  rw [compute, if_neg (by simp [h.column]), ofCells, hf, h.cells, hnumbers]

theorem compute_sum_nil (hn : ns = []) : compute a rows = .null := by
  rw [compute_sum hf h, hn]
  rfl

theorem compute_sum_cons (hn : ns ≠ []) :
    compute a rows = Cell.ofNumber (Arithmetic.sum (ns.map intToFloat)) := by
  rw [compute_sum hf h, total, if_neg (by simpa using hn)]
  rfl

variable (hn : ns ≠ []) (hc : ∀ n ∈ ns, -2 ^ 64 ≤ n ∧ n ≤ 2 ^ 64)

include hn hc

theorem value?_compute_sum : Cell.value? (compute a rows) = some (roundedSum ns : ℚ) := by
  have hwhole := whole_sum hc
  rw [compute_sum_cons hf h hn, Cell.value?_ofNumber (isFinite_of_whole hwhole),
    valueOf_of_whole hwhole]

theorem compute_sum_eq_int_iff {s : Int} :
    compute a rows = .int s ↔ roundedSum ns = s ∧ s.natAbs < 2 ^ 53 := by
  have hwhole := whole_sum hc
  rw [compute_sum_cons hf h hn, Cell.ofNumber_eq_int_iff, valueOf_of_whole hwhole, Int.cast_inj]
  exact and_congr_left' (and_iff_right (isFinite_of_whole hwhole))

end Sum

end Aggregate

theorem cell_of_prefixes {ns : List Int}
    (hp : ∀ p ∈ ns.inits, -2 ^ 63 ≤ p.sum ∧ p.sum < 2 ^ 63) {n : Int} (hn : n ∈ ns) :
    -2 ^ 64 ≤ n ∧ n ≤ 2 ^ 64 := by
  obtain ⟨p, q, rfl⟩ := List.append_of_mem hn
  have hbefore := hp p ((List.mem_inits _ _).mpr (List.prefix_append p (n :: q)))
  have hwith := hp (p ++ [n]) ((List.mem_inits _ _).mpr ⟨q, by simp⟩)
  rw [List.sum_append, List.sum_singleton] at hwith
  omega

/-- Of integers, the sum denotes the rounded sum, which is the exact one within `2 ^ 53`, and it is
written as an integer below that. Of nothing it is null. -/
theorem integer_sum_iff {a : AggregateField} {rows : List Row} {ns : List Int}
    (hf : a.function = .sum) (h : Aggregate.OverIntegers a rows ns)
    (hp : ∀ p ∈ ns.inits, -2 ^ 63 ≤ p.sum ∧ p.sum < 2 ^ 63) :
    (ns = [] → Aggregate.compute a rows = .null) ∧
      (ns ≠ [] →
        Cell.value? (Aggregate.compute a rows) = some (roundedSum ns : ℚ) ∧
          ∀ s, Aggregate.compute a rows = .int s ↔ roundedSum ns = s ∧ s.natAbs < 2 ^ 53) ∧
      ((∀ p ∈ ns.inits, p.sum.natAbs ≤ 2 ^ 53) → (∀ n ∈ ns, n.natAbs ≤ 2 ^ 53) →
        roundedSum ns = ns.sum) := by
  have hc : ∀ n ∈ ns, -2 ^ 64 ≤ n ∧ n ≤ 2 ^ 64 := fun n hn => cell_of_prefixes hp hn
  exact ⟨Aggregate.compute_sum_nil hf h, fun hn => ⟨Aggregate.value?_compute_sum hf h hn hc,
    fun s => Aggregate.compute_sum_eq_int_iff hf h hn hc⟩, roundedSum_eq_sum⟩

def sumOfX : AggregateField := ⟨"x", .sum, "total", none⟩

theorem sum_one_two :
    sumOfX.function = .sum ∧ Aggregate.OverIntegers sumOfX [rowOfX 1, rowOfX 2] [1, 2] ∧
      (∀ p ∈ [(1 : Int), 2].inits, -2 ^ 63 ≤ p.sum ∧ p.sum < 2 ^ 63) ∧
      Aggregate.compute sumOfX [rowOfX 1, rowOfX 2] = .int 3 := by
  have hcells : Aggregate.OverIntegers sumOfX [rowOfX 1, rowOfX 2] [1, 2] := ⟨rfl, rfl⟩
  have hp : ∀ p ∈ [(1 : Int), 2].inits, -2 ^ 63 ≤ p.sum ∧ p.sum < 2 ^ 63 := by decide
  obtain ⟨-, hsum, -⟩ := integer_sum_iff rfl hcells hp
  exact ⟨rfl, hcells, hp, ((hsum (List.cons_ne_nil _ _)).2 3).mpr (by decide)⟩

/-- The one in the middle is lost: `2 ^ 53 + 1` is rounded down, whatever is taken away again. -/
theorem sum_loses_one :
    (∀ p ∈ [(9007199254740992 : Int), 1, -9007199254740992].inits,
        -2 ^ 63 ≤ p.sum ∧ p.sum < 2 ^ 63) ∧
      [(9007199254740992 : Int), 1, -9007199254740992].sum = 1 ∧
      Aggregate.compute sumOfX
        [rowOfX 9007199254740992, rowOfX 1, rowOfX (-9007199254740992)] = .int 0 := by
  have hcells : Aggregate.OverIntegers sumOfX
      [rowOfX 9007199254740992, rowOfX 1, rowOfX (-9007199254740992)]
      [9007199254740992, 1, -9007199254740992] := ⟨rfl, rfl⟩
  refine ⟨by decide, by decide, ?_⟩
  exact (Aggregate.compute_sum_eq_int_iff rfl hcells (List.cons_ne_nil _ _) (by simp)).mpr
    (by decide +kernel)

end TableQuery
