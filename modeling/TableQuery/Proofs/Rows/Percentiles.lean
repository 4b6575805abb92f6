import Mathlib.Data.List.GetD
import Mathlib.Tactic.Linarith
import TableQuery.Proofs.Rows.ExactArithmetic

namespace TableQuery

namespace Arithmetic

/-- The value of a list at a place between its items. -/
def interpolate (xs : List ℚ) (t : ℚ) : ℚ :=
  xs.getD ⌊t⌋₊ 0 + (xs.getD ⌈t⌉₊ 0 - xs.getD ⌊t⌋₊ 0) * (t - ⌊t⌋₊)

def placeOf (xs : List ℚ) (p : ℚ) : ℚ := p * (xs.length - 1 : Nat)

section Place

variable {xs : List ℚ} {p q : ℚ}

theorem placeOf_nonneg (hp : 0 ≤ p) : 0 ≤ placeOf xs p := mul_nonneg hp (Nat.cast_nonneg _)

theorem placeOf_mono (h : p ≤ q) : placeOf xs p ≤ placeOf xs q :=
  mul_le_mul_of_nonneg_right h (Nat.cast_nonneg _)

theorem placeOf_le (hp : p ≤ 1) : placeOf xs p ≤ (xs.length - 1 : Nat) :=
  mul_le_of_le_one_left (Nat.cast_nonneg _) hp

theorem ceil_placeOf_lt (hne : xs ≠ []) (hp : p ≤ 1) : ⌈placeOf xs p⌉₊ < xs.length :=
  (Nat.ceil_le.mpr (placeOf_le hp)).trans_lt
    (Nat.sub_one_lt (mt List.length_eq_zero_iff.mp hne))

theorem floor_placeOf_lt (hne : xs ≠ []) (hp : p ≤ 1) : ⌊placeOf xs p⌋₊ < xs.length :=
  (Nat.floor_le_ceil _).trans_lt (ceil_placeOf_lt hne hp)

theorem percentile_eq_some (hne : xs ≠ []) (hp : 0 ≤ p) (hp' : p ≤ 1) :
    percentile xs p = some (interpolate xs (placeOf xs p)) := by
  have hl := floor_placeOf_lt hne hp'
  have hu := ceil_placeOf_lt hne hp'
  have hfraction : isFraction p = true := by
    simp [isFraction, hp, hp']
  have hempty : (xs.isEmpty || !isFraction p) = false := by
    simp [hfraction, hne]
  have hplace : p * ofNat (xs.length - 1) = placeOf xs p := rfl
  have hlower : floor (placeOf xs p) = ⌊placeOf xs p⌋₊ := rfl
  have hupper : ceil (placeOf xs p) = ⌈placeOf xs p⌉₊ := rfl
  simp only [percentile, hempty, Bool.false_eq_true, if_false, hplace, hlower, hupper,
    List.getElem?_eq_getElem hl, List.getElem?_eq_getElem hu]
  split
  · next h => simp [interpolate, ← h, hl]
  · simp only [interpolate, List.getD_eq_getElem _ _ hl, List.getD_eq_getElem _ _ hu]
    rfl

theorem percentile_eq_none_iff : percentile xs p = none ↔ xs = [] ∨ ¬(0 ≤ p ∧ p ≤ 1) := by
  constructor
  · intro h
    by_contra hn
    simp only [not_or, not_not] at hn
    rw [percentile_eq_some hn.1 hn.2.1 hn.2.2] at h
    cases h
  · intro h
    have hempty : (xs.isEmpty || !isFraction p) = true := by
      simpa [isFraction, or_iff_not_imp_left] using h
    rw [percentile, if_pos hempty]

end Place

section Sorted

variable {xs : List ℚ} (hs : xs.Pairwise (· ≤ ·)) {s t : ℚ}

include hs

theorem getD_mono {i j : Nat} (h : i ≤ j) (hj : j < xs.length) : xs.getD i 0 ≤ xs.getD j 0 := by
  rcases h.eq_or_lt with rfl | hlt
  · exact le_rfl
  · rw [List.getD_eq_getElem _ _ (h.trans_lt hj), List.getD_eq_getElem _ _ hj]
    exact List.pairwise_iff_getElem.mp hs i j _ hj hlt

theorem getD_floor_le_interpolate (ht : 0 ≤ t) (hl : ⌈t⌉₊ < xs.length) :
    xs.getD ⌊t⌋₊ 0 ≤ interpolate xs t := by
  have hneighbours := getD_mono hs (Nat.floor_le_ceil t) hl
  have hpart := Nat.floor_le ht
  exact le_add_of_nonneg_right (mul_nonneg (sub_nonneg.mpr hneighbours) (sub_nonneg.mpr hpart))

theorem interpolate_le_getD_ceil (hl : ⌈t⌉₊ < xs.length) :
    interpolate xs t ≤ xs.getD ⌈t⌉₊ 0 := by
  have hneighbours := getD_mono hs (Nat.floor_le_ceil t) hl
  have hpart : t - ⌊t⌋₊ ≤ 1 := by linarith [Nat.lt_floor_add_one t]
  calc interpolate xs t
      ≤ xs.getD ⌊t⌋₊ 0 + (xs.getD ⌈t⌉₊ 0 - xs.getD ⌊t⌋₊ 0) * 1 :=
        add_le_add_right (mul_le_mul_of_nonneg_left hpart (sub_nonneg.mpr hneighbours)) _
    _ = xs.getD ⌈t⌉₊ 0 := by rw [mul_one, add_sub_cancel]

theorem interpolate_mono (h0 : 0 ≤ s) (h : s ≤ t) (hl : ⌈t⌉₊ < xs.length) :
    interpolate xs s ≤ interpolate xs t := by
  have hls : ⌈s⌉₊ < xs.length := (Nat.ceil_mono h).trans_lt hl
  by_cases hbetween : ⌈s⌉₊ ≤ ⌊t⌋₊
  · -- An item stands between the two places.
    calc interpolate xs s ≤ xs.getD ⌈s⌉₊ 0 := interpolate_le_getD_ceil hs hls
      _ ≤ xs.getD ⌊t⌋₊ 0 := getD_mono hs hbetween ((Nat.floor_le_ceil t).trans_lt hl)
      _ ≤ interpolate xs t := getD_floor_le_interpolate hs (h0.trans h) hl
  · -- Both places have the same neighbours.
    have hfloor : ⌊s⌋₊ = ⌊t⌋₊ := by
      have hle := Nat.floor_mono h
      have hstep := Nat.ceil_le_floor_add_one s
      omega
    have hceil : ⌈s⌉₊ = ⌈t⌉₊ := by
      have hle := Nat.ceil_mono h
      have hstep := Nat.ceil_le_floor_add_one t
      omega
    have hneighbours := getD_mono hs (Nat.floor_le_ceil t) hl
    rw [interpolate, interpolate, hfloor, hceil]
    exact add_le_add_right
      (mul_le_mul_of_nonneg_left (sub_le_sub_right h _) (sub_nonneg.mpr hneighbours)) _

end Sorted

theorem interpolate_natCast (xs : List ℚ) (i : Nat) : interpolate xs i = xs.getD i 0 := by
  simp [interpolate]

section Reverse

variable {xs : List ℚ} {n : Nat} {t : ℚ}

theorem getD_reverse_neg {i : Nat} (h : i < xs.length) :
    (xs.map (- ·)).reverse.getD (xs.length - 1 - i) 0 = -xs.getD i 0 := by
  have hlength : (xs.map (- ·)).reverse.length = xs.length := by
    rw [List.length_reverse, List.length_map]
  have hplace : xs.length - 1 - (xs.length - 1 - i) = i := by omega
  rw [List.getD_eq_getElem _ _ (by omega), List.getD_eq_getElem _ _ h, List.getElem_reverse,
    List.getElem_map]
  simp only [List.length_map, hplace]

theorem floor_sub (h0 : 0 ≤ t) (h : t ≤ n) : ⌊n - t⌋₊ = n - ⌈t⌉₊ := by
  have hle : ⌈t⌉₊ ≤ n := Nat.ceil_le.mpr h
  rw [Nat.floor_eq_iff (sub_nonneg.mpr h), Nat.cast_sub hle]
  constructor
  · linarith [Nat.le_ceil t]
  · linarith [Nat.ceil_lt_add_one h0]

theorem ceil_sub (h0 : 0 ≤ t) (h : t ≤ n) : ⌈n - t⌉₊ = n - ⌊t⌋₊ := by
  have hfloor : ⌊t⌋₊ ≤ n := (Nat.floor_le_floor h).trans_eq (Nat.floor_natCast n)
  have hback := floor_sub (sub_nonneg.mpr h) (sub_le_self _ h0)
  have hceil : ⌈n - t⌉₊ ≤ n := Nat.ceil_le.mpr (sub_le_self _ h0)
  rw [sub_sub_cancel] at hback
  omega

/-- The place as far from the end of the reversed list. -/
theorem interpolate_reverse_neg {xs : List ℚ} {t : ℚ} (hne : xs ≠ []) (h0 : 0 ≤ t)
    (h : t ≤ (xs.length - 1 : Nat)) :
    interpolate (xs.map (- ·)).reverse ((xs.length - 1 : Nat) - t) = -interpolate xs t := by
  have hlength : 0 < xs.length := List.length_pos_of_ne_nil hne
  have hceil : ⌈t⌉₊ ≤ xs.length - 1 := Nat.ceil_le.mpr h
  have hfloor : ⌊t⌋₊ ≤ ⌈t⌉₊ := Nat.floor_le_ceil t
  have hpart : ((xs.length - 1 - ⌈t⌉₊ : Nat) : ℚ) = (xs.length - 1 : Nat) - ⌈t⌉₊ := Nat.cast_sub hceil
  simp only [interpolate, floor_sub h0 h, ceil_sub h0 h]
  rw [getD_reverse_neg (by omega), getD_reverse_neg (by omega), hpart]
  by_cases hwhole : ⌊t⌋₊ = ⌈t⌉₊
  · rw [hwhole]
    ring
  · have hnext : (⌈t⌉₊ : ℚ) = ⌊t⌋₊ + 1 := by
      have hstep := Nat.ceil_le_floor_add_one t
      exact_mod_cast (show ⌈t⌉₊ = ⌊t⌋₊ + 1 by omega)
    rw [hnext]
    ring

end Reverse

section Percentile

variable {xs : List ℚ} {p q x y : ℚ}

theorem percentile_eq_some_iff :
    percentile xs p = some x ↔
      (xs ≠ [] ∧ 0 ≤ p ∧ p ≤ 1) ∧ interpolate xs (placeOf xs p) = x := by
  by_cases h : xs = [] ∨ ¬(0 ≤ p ∧ p ≤ 1)
  · rw [percentile_eq_none_iff.mpr h]
    exact iff_of_false (nomatch ·) fun hx => h.elim hx.1.1 (· hx.1.2)
  · simp only [not_or, not_not] at h
    rw [percentile_eq_some h.1 h.2.1 h.2.2, Option.some_inj, and_iff_right h]

theorem percentile_at_item {i : Nat} (hi : i < xs.length) (hp : p = i / (xs.length - 1 : Nat)) :
    percentile xs p = xs[i]? := by
  have hne : xs ≠ [] := List.ne_nil_of_length_pos (Nat.zero_lt_of_lt hi)
  have hle : (i : ℚ) ≤ (xs.length - 1 : Nat) := Nat.cast_le.mpr (Nat.le_sub_one_of_lt hi)
  have hplace : placeOf xs p = i := by
    rw [placeOf, hp]
    refine div_mul_cancel_of_imp fun hz => ?_
    exact le_antisymm (hz ▸ hle) (Nat.cast_nonneg i)
  have h0 : 0 ≤ p := hp ▸ div_nonneg (Nat.cast_nonneg _) (Nat.cast_nonneg _)
  have h1 : p ≤ 1 := hp ▸ div_le_one_of_le₀ hle (Nat.cast_nonneg _)
  rw [percentile_eq_some hne h0 h1, hplace, interpolate_natCast, List.getD_eq_getElem _ _ hi,
    List.getElem?_eq_getElem hi]

theorem percentile_reverse_neg (hx : percentile xs p = some x) :
    percentile (xs.map (- ·)).reverse (1 - p) = some (-x) := by
  obtain ⟨⟨hne, h0, h1⟩, rfl⟩ := percentile_eq_some_iff.mp hx
  have hne' : (xs.map (- ·)).reverse ≠ [] := by simpa using hne
  have hplace : placeOf (xs.map (- ·)).reverse (1 - p) = (xs.length - 1 : Nat) - placeOf xs p := by
    rw [placeOf, placeOf, List.length_reverse, List.length_map, sub_mul, one_mul]
  rw [percentile_eq_some hne' (sub_nonneg.mpr h1) (sub_le_self _ h0), hplace,
    interpolate_reverse_neg hne (placeOf_nonneg h0) (placeOf_le h1)]

variable (hs : xs.Pairwise (· ≤ ·)) (hx : percentile xs p = some x)

include hs hx

theorem head_le_percentile {a : ℚ} (ha : a ∈ xs.head?) : a ≤ x := by
  obtain ⟨⟨hne, h0, h1⟩, rfl⟩ := percentile_eq_some_iff.mp hx
  have hfirst : xs.getD 0 0 = a := by
    rw [List.getD_eq_getElem?_getD, ← List.head?_eq_getElem?, ha]
    rfl
  calc a = xs.getD 0 0 := hfirst.symm
    _ ≤ xs.getD ⌊placeOf xs p⌋₊ 0 := getD_mono hs (Nat.zero_le _) (floor_placeOf_lt hne h1)
    _ ≤ _ := getD_floor_le_interpolate hs (placeOf_nonneg h0) (ceil_placeOf_lt hne h1)

theorem percentile_le_last {b : ℚ} (hb : b ∈ xs.getLast?) : x ≤ b := by
  obtain ⟨⟨hne, h0, h1⟩, rfl⟩ := percentile_eq_some_iff.mp hx
  have hlast : xs.getD (xs.length - 1) 0 = b := by
    rw [List.getD_eq_getElem?_getD, ← List.getLast?_eq_getElem?, hb]
    rfl
  have hl := ceil_placeOf_lt hne h1
  calc _ ≤ xs.getD ⌈placeOf xs p⌉₊ 0 := interpolate_le_getD_ceil hs hl
    _ ≤ xs.getD (xs.length - 1) 0 := getD_mono hs (Nat.le_sub_one_of_lt hl) (by omega)
    _ = b := hlast

theorem percentile_mono (hy : percentile xs q = some y) (h : p ≤ q) : x ≤ y := by
  obtain ⟨⟨hne, h0, -⟩, rfl⟩ := percentile_eq_some_iff.mp hx
  obtain ⟨⟨-, -, h1⟩, rfl⟩ := percentile_eq_some_iff.mp hy
  exact interpolate_mono hs (placeOf_nonneg h0) (placeOf_mono h) (ceil_placeOf_lt hne h1)

end Percentile

end Arithmetic

open Arithmetic in
/-- A percentile of an ascending list exists for a fraction from 0 to 1, unless the list is empty. The
two items that it reads are in the list; it lies between the first and the last item, is the item
itself at its place, grows with the fraction, and changes sign when the list is negated and read from
its end. -/
theorem percentile_interpolates {xs : List ℚ} (hs : xs.Pairwise (· ≤ ·)) (p : ℚ) :
    (percentile xs p = none ↔ xs = [] ∨ ¬(0 ≤ p ∧ p ≤ 1)) ∧
      (∀ x, percentile xs p = some x →
        floor (p * (xs.length - 1 : Nat)) < xs.length ∧
          ceil (p * (xs.length - 1 : Nat)) < xs.length ∧
          (∀ a ∈ xs.head?, a ≤ x) ∧ (∀ b ∈ xs.getLast?, x ≤ b) ∧
          (∀ q y, p ≤ q → percentile xs q = some y → x ≤ y) ∧
          percentile (xs.map (- ·)).reverse (1 - p) = some (-x)) ∧
      ∀ i, i < xs.length → p = i / (xs.length - 1 : Nat) → percentile xs p = xs[i]? := by
  refine ⟨percentile_eq_none_iff, fun x hx => ?_, fun i hi hp => percentile_at_item hi hp⟩
  obtain ⟨⟨hne, -, h1⟩, -⟩ := percentile_eq_some_iff.mp hx
  exact ⟨floor_placeOf_lt hne h1, ceil_placeOf_lt hne h1, fun a => head_le_percentile hs hx,
    fun b => percentile_le_last hs hx, fun q y h hy => percentile_mono hs hx hy h,
    percentile_reverse_neg hx⟩

theorem quartile_of_five :
    [(10 : ℚ), 20, 30, 40, 50].Pairwise (· ≤ ·) ∧
      Arithmetic.percentile [(10 : ℚ), 20, 30, 40, 50] (1 / 4) = some 20 ∧
      Arithmetic.percentile [(-50 : ℚ), -40, -30, -20, -10] (1 - 1 / 4) = some (-20) := by
  have hs : [(10 : ℚ), 20, 30, 40, 50].Pairwise (· ≤ ·) := by decide
  obtain ⟨-, hvalue, hitem⟩ := percentile_interpolates hs (1 / 4)
  have hquartile : Arithmetic.percentile [(10 : ℚ), 20, 30, 40, 50] (1 / 4) = some 20 :=
    hitem 1 (by decide) (by norm_num)
  obtain ⟨-, -, -, -, -, hnegated⟩ := hvalue 20 hquartile
  exact ⟨hs, hquartile, hnegated⟩

end TableQuery
