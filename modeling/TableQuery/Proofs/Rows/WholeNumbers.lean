import TableQuery.Proofs.Rows.IntegerSums
import TableQuery.Proofs.Rows.RoundedPercentiles

namespace TableQuery

open Float.Model FloatIntegers FloatValues Rounding
open Decimal (valueOf extendedOf)

section Readings

theorem normal_of_value {m k : Nat} {e : ℤ} (hc : Canonical m e) (hm : 0 < m) (he : e ≤ 971)
    (h : (m : ℚ) * 2 ^ e = k) : Normal m e := by
  have hlead : 2 ^ 52 ≤ m := by
    refine hc.leading.resolve_right fun hleast => ?_
    -- With the least exponent, an integer has far more digits than there are.
    obtain ⟨i, ⟨hi, -⟩ | ⟨hi, rfl⟩⟩ := scaled_cases h
    · omega
    · have hk : 0 < k := Nat.pos_of_mul_pos_right hm
      have hlarge : 2 ^ 53 ≤ k * 2 ^ i :=
        (Nat.pow_le_pow_right two_pos (by omega)).trans (Nat.le_mul_of_pos_left _ hk)
      exact absurd hc.lt hlarge.not_gt
  exact ⟨(Nat.log2_eq_iff hm.ne').mpr ⟨hlead, hc.lt⟩, hc.least, he⟩

variable {x : Float} {n : ℤ}

theorem whole_of_valueOf (hf : x.isFinite = true) (h : valueOf x = n) :
    Whole x.toModel.unpack n := by
  by_cases hz : valueOf x = 0
  · obtain ⟨s, hs⟩ := exists_unpack_zero hf hz
    obtain rfl : n = 0 := by exact_mod_cast h.symm.trans hz
    rw [hs]
    exact .zero s
  · rw [Decimal.valueOf_eq_rational hf] at h hz
    cases hu : x.toModel.unpack with
    | notANumber | infinity | zero =>
        rw [hu] at hz
        exact absurd rfl hz
    | finite s m e hm =>
        have hnormal {k : Nat} := normal_of_value (k := k) (canonical_unpack hu) hm (greatest_unpack hu)
        rw [hu] at h
        cases s with
        | negative =>
            have hneg : n ≤ 0 := by exact_mod_cast h ▸ (rational_negative m e hm).le
            obtain ⟨k, rfl⟩ := Int.exists_eq_neg_ofNat hneg
            rw [rational_eq_neg, Int.cast_neg, neg_inj, Int.cast_natCast] at h
            exact .finite .negative (hnormal h) h
        | positive =>
            have hpos : 0 ≤ n := by exact_mod_cast h ▸ (rational_positive m e hm).le
            obtain ⟨k, rfl⟩ := Int.eq_ofNat_of_zero_le hpos
            rw [rational_eq, Int.cast_natCast] at h
            exact .finite .positive (hnormal h) h

end Readings

section Quotients

theorem apply_one_mul (s : UnpackedFloat.Sign) (k : Nat) :
    ((s.apply k : ℤ) : ℚ) = (s.apply 1 : ℤ) * k := by
  cases s <;> simp [UnpackedFloat.Sign.apply]

theorem apply_one_div (s t : UnpackedFloat.Sign) :
    (((s / t).apply 1 : ℤ) : ℚ) = (s.apply 1 : ℤ) / (t.apply 1 : ℤ) := by
  have hsigns : (s / t).apply 1 = s.apply 1 * t.apply 1 := by
    cases s <;> cases t <;> rfl
  rw [hsigns]
  cases t <;> simp [UnpackedFloat.Sign.apply, div_neg]

theorem boundedValue_apply (s : UnpackedFloat.Sign) (v : ℚ) :
    boundedValue ((s.apply 1 : ℤ) * v) = (s.apply 1 : ℤ) * boundedValue v := by
  cases s <;> simp [UnpackedFloat.Sign.apply, boundedValue_neg]

theorem abs_boundedValue (v : ℚ) : |boundedValue v| = boundedValue |v| := by
  rcases le_total 0 v with hv | hv
  · rw [abs_of_nonneg hv, abs_of_nonneg]
    exact boundedValue_zero.ge.trans (boundedValue_mono hv)
  · rw [abs_of_nonpos hv, boundedValue_neg, abs_of_nonpos]
    exact (boundedValue_mono hv).trans_eq boundedValue_zero

variable {x y : Float} {a b : ℤ} (hx : Whole x.toModel.unpack a) (hy : Whole y.toModel.unpack b)
  (hb : b ≠ 0)

include hx hy hb

theorem extendedOf_div_whole :
    (x / y).isNaN = false ∧ extendedOf (x / y) = boundedValue (a / b) := by
  rw [Decimal.div_eq_pack]
  generalize x.toModel.unpack = u at hx
  generalize y.toModel.unpack = v at hy
  cases hy with
  | zero => exact absurd rfl hb
  | @finite t n f q hn hq =>
      cases hx with
      | zero s =>
          have hwhole := unpack_ofModel_pack (Whole.zero (s / t))
          refine ⟨FloatOrder.isNaN_of_isFinite (isFinite_of_whole hwhole), ?_⟩
          rw [Int.cast_zero, zero_div, boundedValue_zero]
          exact (Decimal.extendedOf_of_isFinite (isFinite_of_whole hwhole)).trans (by
            simpa using valueOf_of_whole hwhole)
      | @finite s m e p hm hp =>
          refine ⟨FloatOrder.isNaN_ofModel_pack (FloatOrder.isNaN_roundWithAccuracy ..), ?_⟩
          have hnonneg : (0 : ℚ) ≤ p / q := by positivity
          have hr := Decimal.extendedOf_pack (represents_div s t (e := e) (f := f) hm.pos hn.pos)
          rw [hr, hp, hq, ← boundedValue_of_nonneg hnonneg, ← boundedValue_apply, apply_one_div,
            apply_one_mul s, apply_one_mul t, div_mul_div_comm]

theorem valueOf_div_whole :
    (x / y).isFinite = true ∧ valueOf (x / y) = boundedValue (a / b) := by
  obtain ⟨hn, hv⟩ := extendedOf_div_whole hx hy hb
  have hf := isFinite_of_whole hx
  have hle : |(a : ℚ) / b| ≤ |(a : ℚ)| := by
    rw [abs_div]
    exact div_le_self (abs_nonneg _) (by exact_mod_cast Int.one_le_abs hb)
  have hlt : |boundedValue ((a : ℚ) / b)| < overflow :=
    calc |boundedValue ((a : ℚ) / b)| = boundedValue |(a : ℚ) / b| := abs_boundedValue _
      _ ≤ boundedValue |(a : ℚ)| := boundedValue_mono hle
      _ = |valueOf x| := by
        rw [← abs_boundedValue, ← valueOf_of_whole hx, Decimal.boundedValue_valueOf hf]
      _ < overflow := by
        rw [Decimal.valueOf_eq_rational hf]
        exact abs_rational_lt _
  have hfinite : (x / y).isFinite = true :=
    isFinite_of_extendedOf_lt hn (hv ▸ hlt)
  exact ⟨hfinite, by rw [← Decimal.extendedOf_of_isFinite hfinite, hv]⟩

end Quotients

section Sums

/-- Integers that binary64 adds up without rounding. -/
structure SumsInReach (ns : List ℤ) : Prop where
  small : ∀ n ∈ ns, n.natAbs ≤ 2 ^ 53
  partialSums : ∀ p ∈ ns.inits, p.sum.natAbs ≤ 2 ^ 53
  length : ns.length ≤ 2 ^ 53

variable {ms ns : List ℤ} {n t : ℤ} {x : Float} {xs : List Float}

theorem SumsInReach.of_prefix (h : SumsInReach ns) (hp : ms <+: ns) : SumsInReach ms where
  small n hn := h.small n (hp.subset hn)
  partialSums p hpre := by
    rw [List.mem_inits] at hpre
    exact h.partialSums p ((List.mem_inits _ _).mpr (hpre.trans hp))
  length := hp.length_le.trans h.length

theorem SumsInReach.sum_le (h : SumsInReach ns) : ns.sum.natAbs ≤ 2 ^ 53 :=
  h.partialSums ns ((List.mem_inits _ _).mpr (List.prefix_refl ns))

theorem boundedValue_small (hn : n.natAbs ≤ 2 ^ 53) : boundedValue n = n := by
  have hwhole := whole_intToFloat (a := n) (hn.trans_lt (by decide))
  rw [nearest_of_le hn] at hwhole
  rw [← valueOf_of_whole hwhole, Decimal.boundedValue_valueOf (isFinite_of_whole hwhole)]

theorem RoundsTo.whole (h : RoundsTo n x) (hn : n.natAbs ≤ 2 ^ 53) :
    Whole x.toModel.unpack n := by
  have hvalue := h.value
  have hlt : |(n : ℚ)| < overflow := by
    have hcast : |(n : ℚ)| ≤ 2 ^ (53 : ℤ) := by
      rw [← Int.cast_abs, ← Nat.cast_natAbs]
      exact_mod_cast hn
    exact hcast.trans_lt (zpow_lt_zpow_right₀ one_lt_two (by norm_num))
  rw [boundedValue_small hn] at hvalue
  have hf : x.isFinite = true := isFinite_of_extendedOf_lt h.isNaN (hvalue ▸ hlt)
  exact whole_of_valueOf hf (by rw [← Decimal.extendedOf_of_isFinite hf, hvalue])

theorem whole_foldl_exact (h : List.Forall₂ (fun x n => Whole x.toModel.unpack n) xs ns)
    (hx : Whole x.toModel.unpack t) (hp : ∀ p ∈ ns.inits, (t + p.sum).natAbs ≤ 2 ^ 53) :
    Whole (xs.foldl (· + ·) x).toModel.unpack (t + ns.sum) := by
  induction h generalizing x t with
  | nil => simpa using hx
  | @cons y n ys ns hy _ ih =>
      have hsum : (t + n).natAbs ≤ 2 ^ 53 := by
        simpa using hp [n] (by simp [List.mem_inits])
      have hadd := whole_add hx hy (hsum.trans_lt (by decide))
      rw [nearest_of_le hsum] at hadd
      rw [List.foldl_cons, List.sum_cons, ← Int.add_assoc]
      refine ih hadd fun p hpre => ?_
      have hcons := hp (n :: p) (by simpa [List.mem_inits] using hpre)
      rwa [List.sum_cons, ← Int.add_assoc] at hcons

end Sums
end TableQuery
