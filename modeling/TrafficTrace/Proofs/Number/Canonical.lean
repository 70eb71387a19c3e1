import TrafficTrace.Proofs.Number.Rounding

/-!
# Numbers that come from rounding

The exponent is chosen so that the quotient has 53 bits before the point, unless it is the least
one. So the rounded number is in canonical form, and is not zero for a quotient of at least one.
-/
namespace TrafficTrace.Number

theorem div_le_roundQuotient (num den : Nat) : num / den ≤ roundQuotient num den := by
  unfold roundQuotient
  dsimp only
  split_ifs <;> omega

theorem roundQuotient_le (num den : Nat) : roundQuotient num den ≤ num / den + 1 := by
  unfold roundQuotient
  dsimp only
  split_ifs <;> omega

namespace Binary64

theorem half_mantissaLimit : mantissaLimit / 2 = leastFull := rfl

theorem leastFull_lt : leastFull < mantissaLimit := by decide

theorem leastFull_pos : 0 < leastFull := by decide

/-- A comparison of whole numbers that are scaled by a power of two on one side. -/
theorem scaled_lt_iff (num den k : Nat) (e : ℤ) :
    num * Nat.pow 2 (-e).toNat < den * Nat.pow 2 e.toNat * k ↔ (num : ℚ) < den * 2 ^ e * k := by
  have unit : (0 : ℚ) < 2 ^ (-e).toNat := by positivity
  refine lt_iff_of_cast unit (by simp) ?_
  have two := zpow_mul_pow_neg (b := 2) two_ne_zero e
  simp only [Nat.pow_eq, Nat.cast_mul, Nat.cast_pow, Nat.cast_ofNat]
  rw [← two]
  ring

theorem two_zpow_log2_le {n : Nat} (h : n ≠ 0) : (2 : ℚ) ^ (n.log2 : ℤ) ≤ n := by
  rw [zpow_natCast]
  exact_mod_cast Nat.log2_self_le h

theorem lt_two_zpow_log2 (n : Nat) : (n : ℚ) < 2 ^ (n.log2 + 1 : ℤ) := by
  have bound : n < 2 ^ (n.log2 + 1) := Nat.lt_log2_self
  exact_mod_cast bound

/-- The quotient in units of the exponent: below 2^53, and at least 2^52 unless the exponent is the
least. -/
theorem exponentOf_spec {num den : Nat} (hn : num ≠ 0) (hd : den ≠ 0) :
    leastExponent ≤ exponentOf num den ∧
    (num : ℚ) < den * 2 ^ exponentOf num den * mantissaLimit ∧
    (exponentOf num den ≠ leastExponent → (den * 2 ^ exponentOf num den * leastFull : ℚ) ≤ num) := by
  set guess : ℤ := (num.log2 : ℤ) - (den.log2 : ℤ) - 52 with guessed
  have limit : (mantissaLimit : ℚ) = 2 ^ (53 : ℤ) := by norm_num [mantissaLimit]
  have full : (leastFull : ℚ) = 2 ^ (52 : ℤ) := by norm_num [leastFull]
  have positive : (0 : ℚ) < den := by exact_mod_cast Nat.pos_of_ne_zero hd
  -- the logarithms leave a factor of two on either side
  have above : (num : ℚ) < den * 2 ^ guess * mantissaLimit := by
    calc (num : ℚ) < 2 ^ (num.log2 + 1 : ℤ) := lt_two_zpow_log2 num
      _ = 2 ^ (den.log2 : ℤ) * 2 ^ guess * mantissaLimit := by
        rw [limit, ← zpow_add₀ two_ne_zero, ← zpow_add₀ two_ne_zero]
        congr 1
        omega
      _ ≤ den * 2 ^ guess * mantissaLimit := by
        gcongr
        exact two_zpow_log2_le hd
  have below : (den * 2 ^ (guess - 1) * leastFull : ℚ) ≤ num := by
    calc (den * 2 ^ (guess - 1) * leastFull : ℚ)
        ≤ 2 ^ (den.log2 + 1 : ℤ) * 2 ^ (guess - 1) * leastFull := by
          gcongr
          exact (lt_two_zpow_log2 den).le
      _ = 2 ^ (num.log2 : ℤ) := by
        rw [full, ← zpow_add₀ two_ne_zero, ← zpow_add₀ two_ne_zero]
        congr 1
        omega
      _ ≤ num := two_zpow_log2_le hn
  obtain ⟨e, chosen, upper, lower⟩ : ∃ e, exponentOf num den = max e leastExponent ∧
      (num : ℚ) < den * 2 ^ e * mantissaLimit ∧ (den * 2 ^ e * leastFull : ℚ) ≤ num := by
    by_cases small : num * Nat.pow 2 (-guess).toNat < den * Nat.pow 2 guess.toNat * leastFull
    · refine ⟨guess - 1, by simp only [exponentOf, ← guessed, if_pos small], ?_, below⟩
      have half : (2 : ℚ) ^ guess = 2 ^ (guess - 1) * 2 := by
        rw [zpow_sub_one₀ two_ne_zero]
        ring
      have less := (scaled_lt_iff num den leastFull guess).mp small
      have twice : (mantissaLimit : ℚ) = 2 * leastFull := by norm_num [mantissaLimit, leastFull]
      rw [half] at less
      rw [twice]
      linarith
    · refine ⟨guess, by simp only [exponentOf, ← guessed, if_neg small], above, ?_⟩
      rw [scaled_lt_iff] at small
      exact not_lt.mp small
  rw [chosen]
  refine ⟨le_max_right _ _, ?_, fun larger => ?_⟩
  · refine lt_of_lt_of_le upper ?_
    have step : (2 : ℚ) ^ e ≤ 2 ^ max e leastExponent :=
      zpow_le_zpow_right₀ one_le_two (le_max_left _ _)
    gcongr
  · rcases max_choice e leastExponent with same | least
    · rw [same]
      exact lower
    · exact absurd least larger

/-- What is known of the rounded quotient before a carry. -/
theorem rounded_spec {num den : Nat} (hn : num ≠ 0) (hd : den ≠ 0) :
    let e := exponentOf num den
    let m := roundQuotient (num * Nat.pow 2 (-e).toNat) (den * Nat.pow 2 e.toNat)
    m ≤ mantissaLimit ∧ (leastFull ≤ m ∨ e = leastExponent) ∧ (den ≤ num → m ≠ 0) := by
  intro e m
  obtain ⟨-, upper, lower⟩ := exponentOf_spec hn hd
  have size : 0 < den * Nat.pow 2 e.toNat := by
    have power : 0 < Nat.pow 2 e.toNat := Nat.pow_pos Nat.two_pos
    exact Nat.mul_pos (Nat.pos_of_ne_zero hd) power
  have quotient : num * Nat.pow 2 (-e).toNat / (den * Nat.pow 2 e.toNat) < mantissaLimit := by
    refine Nat.div_lt_of_lt_mul ?_
    exact (scaled_lt_iff num den mantissaLimit e).mpr upper
  have high := roundQuotient_le (num * Nat.pow 2 (-e).toNat) (den * Nat.pow 2 e.toNat)
  have low := div_le_roundQuotient (num * Nat.pow 2 (-e).toNat) (den * Nat.pow 2 e.toNat)
  have enough : leastFull ≤ m ∨ e = leastExponent := by
    by_cases least : e = leastExponent
    · exact .inr least
    · have full : ¬ num * Nat.pow 2 (-e).toNat < den * Nat.pow 2 e.toNat * leastFull := by
        rw [scaled_lt_iff, not_lt]
        exact lower least
      have reached : leastFull ≤ num * Nat.pow 2 (-e).toNat / (den * Nat.pow 2 e.toNat) := by
        rw [Nat.le_div_iff_mul_le size, Nat.mul_comm]
        exact not_lt.mp full
      exact .inl (reached.trans low)
  refine ⟨high.trans quotient, enough, fun large => ?_⟩
  rcases enough with full | least
  · have positive := leastFull_pos
    omega
  · have one : 1 ≤ num * Nat.pow 2 (-e).toNat / (den * Nat.pow 2 e.toNat) := by
      have whole : Nat.pow 2 e.toNat = 1 := by
        rw [least]
        rfl
      rw [Nat.le_div_iff_mul_le size, Nat.one_mul, whole, Nat.mul_one]
      exact large.trans (Nat.le_mul_of_pos_right _ (Nat.pow_pos Nat.two_pos))
    omega

theorem isCanonical_zero (negative : Bool) : (zero negative).IsCanonical where
  fits := by simp [zero, mantissaLimit]
  least := le_refl _
  greatest := by simp [zero, leastExponent, greatestExponent]
  full := .inr rfl

/-- What rounding gives: the rounded quotient, or the least full mantissa of the next exponent when
there is a carry. -/
theorem ofRatio?_cases {negative : Bool} {num den : Nat} {x : Binary64} (hn : num ≠ 0)
    (h : ofRatio? negative num den = some x) :
    let e := exponentOf num den
    let m := roundQuotient (num * Nat.pow 2 (-e).toNat) (den * Nat.pow 2 e.toNat)
    (m = mantissaLimit ∧ e + 1 ≤ greatestExponent ∧ x = ⟨negative, leastFull, e + 1⟩) ∨
      (m ≠ mantissaLimit ∧ e ≤ greatestExponent ∧ x = ⟨negative, m, e⟩) := by
  rw [ofRatio?, if_neg hn] at h
  extract_lets e m at h
  intro _ _
  by_cases carry : m = mantissaLimit
  · left
    rw [if_pos carry] at h
    dsimp only at h
    by_cases large : e + 1 > greatestExponent
    · rw [if_pos large] at h
      cases h
    · rw [if_neg large, carry, half_mantissaLimit] at h
      exact ⟨carry, Int.not_lt.mp large, (Option.some.inj h).symm⟩
  · right
    rw [if_neg carry] at h
    dsimp only at h
    by_cases large : e > greatestExponent
    · rw [if_pos large] at h
      cases h
    · rw [if_neg large] at h
      exact ⟨carry, Int.not_lt.mp large, (Option.some.inj h).symm⟩

/-- A rounded quotient is in canonical form. -/
theorem isCanonical_of_ofRatio? {negative : Bool} {num den : Nat} {x : Binary64} (hd : den ≠ 0)
    (h : ofRatio? negative num den = some x) : x.IsCanonical := by
  by_cases hn : num = 0
  · rw [ofRatio?, if_pos hn] at h
    cases h
    exact isCanonical_zero negative
  · obtain ⟨fits, full, -⟩ := rounded_spec hn hd
    obtain ⟨least, -⟩ := exponentOf_spec hn hd
    rcases ofRatio?_cases hn h with ⟨-, small, rfl⟩ | ⟨proper, small, rfl⟩
    · exact ⟨leastFull_lt, least.trans (Int.le_add_one (le_refl _)), small, .inl (le_refl _)⟩
    · exact ⟨lt_of_le_of_ne fits proper, least, small, full⟩

/-- A quotient of at least one does not vanish. -/
theorem mantissa_ne_zero_of_ofRatio? {negative : Bool} {num den : Nat} {x : Binary64}
    (hd : den ≠ 0) (large : den ≤ num) (h : ofRatio? negative num den = some x) :
    x.mantissa ≠ 0 := by
  have hn : num ≠ 0 := by omega
  obtain ⟨-, -, nonzero⟩ := rounded_spec hn hd
  rcases ofRatio?_cases hn h with ⟨-, -, rfl⟩ | ⟨-, -, rfl⟩
  · exact leastFull_pos.ne'
  · exact nonzero large

theorem den_ne_zero (x : Binary64) : x.den ≠ 0 := by
  rw [den, Nat.pow_eq]
  positivity

theorem isCanonical_of_mul? {x y z : Binary64} (h : x.mul? y = some z) : z.IsCanonical :=
  isCanonical_of_ofRatio? (Nat.mul_ne_zero x.den_ne_zero y.den_ne_zero) h

theorem isCanonical_of_div? {x y z : Binary64} (nonzero : y.mantissa ≠ 0)
    (h : x.div? y = some z) : z.IsCanonical := by
  have size : y.num ≠ 0 := Nat.mul_ne_zero nonzero (by rw [Nat.pow_eq]; positivity)
  exact isCanonical_of_ofRatio? (Nat.mul_ne_zero x.den_ne_zero size) h

end Binary64

end TrafficTrace.Number
