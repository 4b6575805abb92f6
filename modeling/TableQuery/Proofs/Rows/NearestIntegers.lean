import TableQuery.Proofs.Rows.FloatIntegers

namespace TableQuery.Rounding

/-- The multiple of `d` nearest to `m`, counted in `d`. -/
def halfEven (m d : Nat) : Nat :=
  match compare (2 * (m % d)) d with
  | .lt => m / d
  | .eq => m / d + m / d % 2
  | .gt => m / d + 1

def lastPlace (n : Nat) : Nat := 2 ^ (n.log2 - 52)

def nearestNat (n : Nat) : Nat := halfEven n (lastPlace n) * lastPlace n

/-- The integer of 53 binary digits nearest to `n`, whatever the number of zeros behind them. -/
def nearest (n : Int) : Int := n.sign * nearestNat n.natAbs

section HalfEven

variable {m n d : Nat}

theorem halfEven_bounds (m d : Nat) : m / d ≤ halfEven m d ∧ halfEven m d ≤ m / d + 1 := by
  unfold halfEven
  split <;> omega

theorem halfEven_mul (q : Nat) (hd : 0 < d) : halfEven (q * d) d = q := by
  have hc : compare (2 * (q * d % d)) d = .lt := by
    rw [Nat.mul_mod_left, Nat.compare_eq_lt]
    exact hd
  rw [halfEven, hc]
  exact Nat.mul_div_cancel q hd

theorem halfEven_one (m : Nat) : halfEven m 1 = m := by
  simpa using halfEven_mul m Nat.one_pos

theorem halfEven_mono (h : m ≤ n) : halfEven m d ≤ halfEven n d := by
  have hm := halfEven_bounds m d
  have hn := halfEven_bounds n d
  rcases Nat.lt_or_eq_of_le (Nat.div_le_div_right h : m / d ≤ n / d) with hq | hq
  · omega
  · -- With equal quotients the remainders decide, and these stand as the numbers do.
    have hr : m % d ≤ n % d := by
      have hdm := Nat.div_add_mod m d
      have hdn := Nat.div_add_mod n d
      rw [hq] at hdm
      omega
    unfold halfEven
    rw [hq]
    rcases Nat.lt_trichotomy (2 * (m % d)) d with h1 | h1 | h1 <;>
      rcases Nat.lt_trichotomy (2 * (n % d)) d with h2 | h2 | h2 <;>
      first
      | omega
      | simp only [Nat.compare_eq_lt.mpr, Nat.compare_eq_eq.mpr, Nat.compare_eq_gt.mpr, h1, h2]
        omega

end HalfEven

section Naturals

variable {m n : Nat}

theorem lastPlace_pos (n : Nat) : 0 < lastPlace n := Nat.two_pow_pos _

theorem le_nearestNat {q : Nat} (h : q * lastPlace n ≤ n) : q * lastPlace n ≤ nearestNat n := by
  have hq := halfEven_mono (d := lastPlace n) h
  rw [halfEven_mul q (lastPlace_pos n)] at hq
  exact Nat.mul_le_mul_right _ hq

theorem nearestNat_le {q : Nat} (h : n ≤ q * lastPlace n) : nearestNat n ≤ q * lastPlace n := by
  have hq := halfEven_mono (d := lastPlace n) h
  rw [halfEven_mul q (lastPlace_pos n)] at hq
  exact Nat.mul_le_mul_right _ hq

theorem nearestNat_eq_self (h : lastPlace n ∣ n) : nearestNat n = n := by
  obtain ⟨q, hq⟩ := h
  have hn : n = q * lastPlace n := hq.trans (Nat.mul_comm _ _)
  exact Nat.le_antisymm (by simpa [← hn] using nearestNat_le hn.le)
    (by simpa [← hn] using le_nearestNat hn.ge)

theorem lastPlace_dvd_two_pow {k : Nat} (h : n.log2 ≤ k) : lastPlace n ∣ 2 ^ k :=
  Nat.pow_dvd_pow 2 (by omega)

theorem lastPlace_dvd (hm : m < 2 ^ 53) (k : Nat) : lastPlace (m * 2 ^ k) ∣ m * 2 ^ k := by
  rcases Nat.eq_zero_or_pos m with rfl | hpos
  · simp
  · have hl : m.log2 < 53 := (Nat.log2_lt (Nat.ne_of_gt hpos)).mpr hm
    rw [lastPlace, FloatIntegers.log2_mul_two_pow (Nat.ne_of_gt hpos)]
    exact Dvd.dvd.mul_left (Nat.pow_dvd_pow 2 (by omega)) m

theorem nearestNat_of_lt (h : n < 2 ^ 53) : nearestNat n = n :=
  nearestNat_eq_self (by simpa using lastPlace_dvd h 0)

theorem nearestNat_zero : nearestNat 0 = 0 := by decide

theorem two_pow_le_nearestNat (hn : n ≠ 0) : 2 ^ n.log2 ≤ nearestNat n := by
  obtain ⟨q, hq⟩ := lastPlace_dvd_two_pow (Nat.le_refl n.log2)
  rw [Nat.mul_comm] at hq
  rw [hq]
  exact le_nearestNat (hq ▸ Nat.log2_self_le hn)

theorem nearestNat_le_two_pow (n : Nat) : nearestNat n ≤ 2 ^ (n.log2 + 1) := by
  obtain ⟨q, hq⟩ := lastPlace_dvd_two_pow (Nat.le_succ n.log2)
  rw [Nat.mul_comm] at hq
  rw [hq]
  exact nearestNat_le (hq ▸ Nat.le_of_lt Nat.lt_log2_self)

/-- What is kept has 53 digits, or is the next power of two. -/
theorem halfEven_lastPlace_bounds (h : 52 ≤ n.log2) :
    2 ^ 52 ≤ halfEven n (lastPlace n) ∧ halfEven n (lastPlace n) ≤ 2 ^ 53 := by
  obtain ⟨k, hk⟩ : ∃ k, n.log2 = 52 + k := Nat.exists_eq_add_of_le h
  have hn : n ≠ 0 := by
    rintro rfl
    exact absurd h (by decide)
  have hunit : lastPlace n = 2 ^ k := by rw [lastPlace, hk, Nat.add_sub_cancel_left]
  have hlow := two_pow_le_nearestNat hn
  have hhigh := nearestNat_le_two_pow n
  rw [nearestNat, hunit, hk, Nat.pow_add] at hlow
  rw [nearestNat, hunit, hk, Nat.add_right_comm, Nat.pow_add] at hhigh
  rw [hunit]
  exact ⟨Nat.le_of_mul_le_mul_right hlow (Nat.two_pow_pos k),
    Nat.le_of_mul_le_mul_right hhigh (Nat.two_pow_pos k)⟩

theorem nearestNat_mono (h : m ≤ n) : nearestNat m ≤ nearestNat n := by
  rcases Nat.eq_zero_or_pos m with rfl | hm
  · simp [nearestNat_zero]
  · have hn : n ≠ 0 := by omega
    have hlog : m.log2 ≤ n.log2 :=
      (Nat.le_log2 hn).mpr ((Nat.log2_self_le (Nat.ne_of_gt hm)).trans h)
    rcases Nat.lt_or_eq_of_le hlog with hl | hl
    · -- Between numbers of different lengths lies a power of two that rounding does not cross.
      calc nearestNat m ≤ 2 ^ (m.log2 + 1) := nearestNat_le_two_pow m
        _ ≤ 2 ^ n.log2 := Nat.pow_le_pow_right Nat.two_pos hl
        _ ≤ nearestNat n := two_pow_le_nearestNat hn
    · rw [nearestNat, nearestNat, lastPlace, lastPlace, hl]
      exact Nat.mul_le_mul_right _ (halfEven_mono h)

end Naturals

section Integers

variable {a b : Int}

theorem nearest_of_nonneg (h : 0 ≤ a) : nearest a = nearestNat a.natAbs := by
  rcases h.eq_or_lt with rfl | hpos
  · rfl
  · rw [nearest, Int.sign_eq_one_of_pos hpos, Int.one_mul]

theorem nearest_of_neg (h : a < 0) : nearest a = -(nearestNat a.natAbs : Int) := by
  rw [nearest, Int.sign_eq_neg_one_of_neg h, Int.neg_one_mul]

theorem nearest_natCast (n : Nat) : nearest n = nearestNat n :=
  nearest_of_nonneg (Int.natCast_nonneg n)

theorem nearest_neg (a : Int) : nearest (-a) = -nearest a := by
  rw [nearest, nearest, Int.sign_neg, Int.natAbs_neg, Int.neg_mul]

theorem nearest_mono (h : a ≤ b) : nearest a ≤ nearest b := by
  obtain ⟨m, rfl | rfl⟩ := a.eq_nat_or_neg <;> obtain ⟨n, rfl | rfl⟩ := b.eq_nat_or_neg
  · rw [nearest_natCast, nearest_natCast]
    exact_mod_cast nearestNat_mono (by omega)
  · obtain ⟨rfl, rfl⟩ : m = 0 ∧ n = 0 := by omega
    simp
  · rw [nearest_neg, nearest_natCast, nearest_natCast]
    omega
  · rw [nearest_neg, nearest_neg, nearest_natCast, nearest_natCast, Int.neg_le_neg_iff]
    exact_mod_cast nearestNat_mono (by omega)

theorem nearest_eq_self {m k : Nat} (hm : m < 2 ^ 53) (h : a.natAbs = m * 2 ^ k) :
    nearest a = a := by
  have hn : nearestNat a.natAbs = a.natAbs := nearestNat_eq_self (h ▸ lastPlace_dvd hm k)
  rw [nearest, hn, Int.sign_mul_natAbs]

theorem nearest_of_le (h : a.natAbs ≤ 2 ^ 53) : nearest a = a := by
  rcases Nat.lt_or_eq_of_le h with hlt | heq
  · exact nearest_eq_self (k := 0) hlt (by simp)
  · -- The bound itself is a single digit with zeros behind it.
    exact nearest_eq_self (m := 1) (k := 53) (by decide) (by simpa using heq)

end Integers

end TableQuery.Rounding
