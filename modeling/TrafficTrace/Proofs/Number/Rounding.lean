import Mathlib.Algebra.Order.Field.Power
import Mathlib.Tactic.Linarith
import Mathlib.Tactic.NormNum
import Mathlib.Tactic.Positivity
import Mathlib.Tactic.Ring
import Mathlib.Data.Rat.Cast.Order
import TrafficTrace.Number.Shortest

/-!
# Decimals that read back

The reals that round to a number, as rationals. Two numbers have no such real in common: between
neighbours there is only an end, and that belongs to the even one. The search for the shortest
decimal ends at one that reads back, since its last power of ten is below a quarter of the distance
to the next number.
-/
namespace TrafficTrace.Number

/-- The rational that a decimal stands for. -/
def Decimal.value (d : Decimal) : ℚ := d.digits * (10 : ℚ) ^ d.exponent

namespace Binary64

/-- The form in which every number but zero has one mantissa and one exponent. -/
structure IsCanonical (x : Binary64) : Prop where
  fits : x.mantissa < mantissaLimit
  least : leastExponent ≤ x.exponent
  greatest : x.exponent ≤ greatestExponent
  full : leastFull ≤ x.mantissa ∨ x.exponent = leastExponent

instance (x : Binary64) : Decidable x.IsCanonical :=
  decidable_of_iff (x.mantissa < mantissaLimit ∧ leastExponent ≤ x.exponent ∧
    x.exponent ≤ greatestExponent ∧ (leastFull ≤ x.mantissa ∨ x.exponent = leastExponent))
    ⟨fun ⟨a, b, c, d⟩ => ⟨a, b, c, d⟩, fun ⟨a, b, c, d⟩ => ⟨a, b, c, d⟩⟩

/-- A quarter of the distance to the next number above. -/
def quarter (x : Binary64) : ℚ := (2 : ℚ) ^ (x.exponent - 2)

/-- Whether the neighbour below is only half as far away. -/
def IsNarrow (x : Binary64) : Prop := x.mantissa = leastFull ∧ leastExponent < x.exponent

instance (x : Binary64) : Decidable x.IsNarrow := inferInstanceAs (Decidable (_ ∧ _))

/-- How far the numbers reach that round to it from below, in quarters. -/
def reach (x : Binary64) : Nat := if x.IsNarrow then 1 else 2

def low (x : Binary64) : ℚ := (4 * x.mantissa - x.reach) * x.quarter

def mid (x : Binary64) : ℚ := 4 * x.mantissa * x.quarter

def high (x : Binary64) : ℚ := (4 * x.mantissa + 2) * x.quarter

/-- Whether a rational reads back as the number, up to the sign. -/
def Reads (x : Binary64) (v : ℚ) : Prop :=
  if x.mantissa % 2 = 0 then x.low ≤ v ∧ v ≤ x.high else x.low < v ∧ v < x.high

theorem quarter_pos (x : Binary64) : 0 < x.quarter := by
  unfold quarter
  positivity

theorem Reads.low_le {x : Binary64} {v : ℚ} (h : x.Reads v) : x.low ≤ v := by
  unfold Reads at h
  split at h
  · exact h.1
  · exact h.1.le

theorem Reads.le_high {x : Binary64} {v : ℚ} (h : x.Reads v) : v ≤ x.high := by
  unfold Reads at h
  split at h
  · exact h.2
  · exact h.2.le

theorem reads_of_lt {x : Binary64} {v : ℚ} (below : x.low < v) (above : v < x.high) :
    x.Reads v := by
  unfold Reads
  split
  · exact ⟨below.le, above.le⟩
  · exact ⟨below, above⟩

theorem reach_pos (x : Binary64) : 0 < x.reach := by
  unfold reach
  split <;> decide

theorem reach_le (x : Binary64) : x.reach ≤ 2 := by
  unfold reach
  split <;> decide

theorem low_pos {x : Binary64} (nonzero : x.mantissa ≠ 0) : 0 < x.low := by
  have one : (1 : ℚ) ≤ x.mantissa := by exact_mod_cast Nat.one_le_iff_ne_zero.mpr nonzero
  have reach : (x.reach : ℚ) ≤ 2 := by exact_mod_cast x.reach_le
  exact mul_pos (by linarith) x.quarter_pos

theorem low_lt_mid (x : Binary64) : x.low < x.mid := by
  have reach : (0 : ℚ) < x.reach := by exact_mod_cast x.reach_pos
  exact mul_lt_mul_of_pos_right (by linarith) x.quarter_pos

theorem high_eq (x : Binary64) : x.high = x.mid + 2 * x.quarter := by
  rw [high, mid]
  ring

/-! ### The interval in natural numbers -/

/-- A power with an integer exponent as a quotient of two with natural ones. -/
theorem zpow_mul_pow_neg {b : ℚ} (hb : b ≠ 0) (e : ℤ) :
    b ^ e * b ^ (-e).toNat = b ^ e.toNat := by
  rw [← zpow_natCast, ← zpow_natCast, ← zpow_add₀ hb]
  congr 1
  omega

/-- Both sides of the comparisons, in a common unit. -/
def unit (x : Binary64) (e : ℤ) : ℚ := 4 * (2 : ℚ) ^ (-x.exponent).toNat * (10 : ℚ) ^ (-e).toNat

theorem unit_pos (x : Binary64) (e : ℤ) : 0 < x.unit e := by
  unfold unit
  positivity

/-- A multiple of a quarter. -/
theorem cast_quarters (x : Binary64) (e : ℤ) (a : ℕ) :
    ((a * Nat.pow 2 x.exponent.toNat * Nat.pow 10 (-e).toNat : ℕ) : ℚ) =
      a * x.quarter * x.unit e := by
  have two := zpow_mul_pow_neg two_ne_zero x.exponent
  have quarter : x.quarter * 4 = (2 : ℚ) ^ x.exponent := by
    rw [Binary64.quarter, zpow_sub₀ two_ne_zero]
    norm_num
  simp only [Nat.pow_eq, Nat.cast_mul, Nat.cast_pow, Nat.cast_ofNat, unit]
  rw [← two, ← quarter]
  ring

/-- A multiple of a power of ten. -/
theorem cast_decimal (x : Binary64) (e : ℤ) (d : ℕ) :
    ((d * Nat.pow 10 e.toNat * x.interval.scale : ℕ) : ℚ) = d * (10 : ℚ) ^ e * x.unit e := by
  have ten := zpow_mul_pow_neg (b := 10) (by norm_num) e
  simp only [interval, Nat.pow_eq, Nat.cast_mul, Nat.cast_pow, Nat.cast_ofNat, unit]
  rw [← ten]
  ring

theorem cast_low {x : Binary64} (nonzero : x.mantissa ≠ 0) (e : ℤ) :
    ((x.interval.low * Nat.pow 10 (-e).toNat : ℕ) : ℚ) = x.low * x.unit e := by
  have fits : x.reach ≤ 4 * x.mantissa := by
    have := x.reach_le
    omega
  have same : x.interval.low = (4 * x.mantissa - x.reach) * Nat.pow 2 x.exponent.toNat := rfl
  rw [same, cast_quarters, Nat.cast_sub fits, low]
  push_cast
  rfl

theorem cast_mid (x : Binary64) (e : ℤ) :
    ((x.interval.mid * Nat.pow 10 (-e).toNat : ℕ) : ℚ) = x.mid * x.unit e := by
  have same : x.interval.mid = 4 * x.mantissa * Nat.pow 2 x.exponent.toNat := rfl
  rw [same, cast_quarters, mid]
  push_cast
  rfl

theorem cast_high (x : Binary64) (e : ℤ) :
    ((x.interval.high * Nat.pow 10 (-e).toNat : ℕ) : ℚ) = x.high * x.unit e := by
  have same : x.interval.high = (4 * x.mantissa + 2) * Nat.pow 2 x.exponent.toNat := rfl
  rw [same, cast_quarters, high]
  push_cast
  rfl

theorem le_iff_of_cast {a b : ℕ} {p q u : ℚ} (pos : 0 < u) (ha : (a : ℚ) = p * u)
    (hb : (b : ℚ) = q * u) : a ≤ b ↔ p ≤ q := by
  rw [← Nat.cast_le (α := ℚ), ha, hb]
  exact mul_le_mul_iff_left₀ pos

theorem lt_iff_of_cast {a b : ℕ} {p q u : ℚ} (pos : 0 < u) (ha : (a : ℚ) = p * u)
    (hb : (b : ℚ) = q * u) : a < b ↔ p < q := by
  rw [← Nat.cast_lt (α := ℚ), ha, hb]
  exact mul_lt_mul_iff_left₀ pos

theorem holds_iff {x : Binary64} (nonzero : x.mantissa ≠ 0) (d : ℕ) (e : ℤ) :
    x.interval.holds d e = true ↔ x.Reads (d * (10 : ℚ) ^ e) := by
  have pos := x.unit_pos e
  have low := cast_low nonzero e
  have high := cast_high x e
  have value := cast_decimal x e d
  have closed : x.interval.closed = decide (x.mantissa % 2 = 0) := rfl
  unfold Interval.holds Reads
  simp only [closed, decide_eq_true_eq]
  split
  · rw [Bool.and_eq_true, decide_eq_true_eq, decide_eq_true_eq, le_iff_of_cast pos low value,
      le_iff_of_cast pos value high]
  · rw [Bool.and_eq_true, decide_eq_true_eq, decide_eq_true_eq, lt_iff_of_cast pos low value,
      lt_iff_of_cast pos value high]

/-! ### The search -/

theorem holds_of_nearest? {i : Interval} {e : ℤ} {d : ℕ} (h : i.nearest? e = some d) :
    i.holds d e = true := by
  unfold Interval.nearest? at h
  dsimp only at h
  split at h
  · cases h
  · rename_i holds _
    cases h
    exact holds
  · rename_i holds
    cases h
    exact holds
  · rename_i lower upper
    split at h
    · cases h; exact lower
    · split at h
      · cases h; exact upper
      · split at h <;> cases h <;> assumption

/-- The first multiple of a small power of ten above the number reads back. -/
theorem nearest?_isSome {x : Binary64} (nonzero : x.mantissa ≠ 0) {e : ℤ}
    (fine : (10 : ℚ) ^ e < x.quarter) : (x.interval.nearest? e).isSome = true := by
  set d := x.interval.mid * Nat.pow 10 (-e).toNat / (x.interval.scale * Nat.pow 10 e.toNat) with hd
  have size : 0 < x.interval.scale * Nat.pow 10 e.toNat := by
    simp only [interval, Nat.pow_eq]
    positivity
  have pos := x.unit_pos e
  have floor : d * (10 : ℚ) ^ e ≤ x.mid := by
    have h := Nat.div_mul_le_self (x.interval.mid * Nat.pow 10 (-e).toNat)
      (x.interval.scale * Nat.pow 10 e.toNat)
    rw [← hd, mul_comm x.interval.scale, ← mul_assoc] at h
    exact (le_iff_of_cast pos (cast_decimal x e d) (cast_mid x e)).mp h
  have above : x.mid < (d + 1 : ℕ) * (10 : ℚ) ^ e := by
    have h := Nat.lt_mul_div_succ (x.interval.mid * Nat.pow 10 (-e).toNat) size
    rw [← hd, mul_comm (_ * _) (d + 1), mul_comm x.interval.scale, ← mul_assoc] at h
    exact (lt_iff_of_cast pos (cast_mid x e) (cast_decimal x e (d + 1))).mp h
  have upper : x.interval.holds (d + 1) e = true := by
    rw [holds_iff nonzero]
    refine reads_of_lt (x.low_lt_mid.trans above) ?_
    rw [high_eq]
    push_cast
    linarith [x.quarter_pos]
  unfold Interval.nearest?
  simp only [← hd, upper]
  cases x.interval.holds d e <;> rfl

/-- The search ends at a decimal that reads back if its last power of ten is small. -/
theorem search_reads {x : Binary64} (nonzero : x.mantissa ≠ 0) (fuel : ℕ) (e : ℤ)
    (fine : (10 : ℚ) ^ (e - fuel) < x.quarter) :
    x.Reads (x.interval.search fuel e).value := by
  have found {d : ℕ} {e : ℤ} (h : x.interval.nearest? e = some d) :
      x.Reads (Decimal.value ⟨d, e⟩) := (holds_iff nonzero d e).mp (holds_of_nearest? h)
  induction fuel generalizing e with
  | zero =>
    rw [Nat.cast_zero, sub_zero] at fine
    obtain ⟨d, last⟩ := Option.isSome_iff_exists.mp (nearest?_isSome nonzero fine)
    rw [Interval.search, last]
    exact found last
  | succ fuel ih =>
    have finer : (10 : ℚ) ^ (e - 1 - fuel) < x.quarter := by
      rw [Nat.cast_succ] at fine
      rwa [sub_sub, add_comm 1]
    rw [Interval.search]
    split
    · rename_i d here
      split
      · exact ih (e - 1) finer
      · exact found here
    · exact ih (e - 1) finer

theorem value_stripZeros (fuel : ℕ) (d : Decimal) : (stripZeros fuel d).value = d.value := by
  induction fuel generalizing d with
  | zero => rfl
  | succ fuel ih =>
    rw [stripZeros]
    split
    · rename_i round
      have tens : d.digits = d.digits / 10 * 10 :=
        (Nat.div_mul_cancel (Nat.dvd_of_mod_eq_zero round.2)).symm
      rw [ih, Decimal.value, Decimal.value, zpow_add₀ (by norm_num), zpow_one]
      conv_rhs => rw [tens]
      push_cast
      ring
    · rfl

/-- Fifty-nine decimal digits are less than 196 binary ones. -/
theorem ten_pow_le {k m : ℕ} (h : 196 * k ≤ 59 * m) : 10 ^ k ≤ 2 ^ m := by
  rw [← Nat.pow_le_pow_iff_left (n := 59) (by decide)]
  calc (10 ^ k) ^ 59 = (10 ^ 59) ^ k := Nat.pow_right_comm ..
    _ ≤ (2 ^ 196) ^ k := Nat.pow_le_pow_left (by norm_num) k
    _ = 2 ^ (196 * k) := (pow_mul ..).symm
    _ ≤ 2 ^ (59 * m) := Nat.pow_le_pow_right (by decide) h
    _ = (2 ^ m) ^ 59 := by rw [mul_comm, pow_mul]

/-- Ninety-three binary digits are less than twenty-eight decimal ones. -/
theorem two_pow_le {k m : ℕ} (h : 28 * m ≤ 93 * k) : 2 ^ m ≤ 10 ^ k := by
  rw [← Nat.pow_le_pow_iff_left (n := 28) (by decide)]
  calc (2 ^ m) ^ 28 = 2 ^ (28 * m) := by rw [mul_comm, pow_mul]
    _ ≤ 2 ^ (93 * k) := Nat.pow_le_pow_right (by decide) h
    _ = (2 ^ 93) ^ k := pow_mul ..
    _ ≤ (10 ^ 28) ^ k := Nat.pow_le_pow_left (by norm_num) k
    _ = (10 ^ k) ^ 28 := Nat.pow_right_comm ..

/-- The exponents of the search are a share of the binary one that is slightly above the logarithm
of two, which does not matter for numbers of this size. -/
theorem ten_zpow_le {n z : ℤ} (least : -1100 ≤ n) (greatest : n ≤ 1100)
    (share : z * 100000 ≤ n * 30103) : (10 : ℚ) ^ z ≤ 2 ^ (n + 1) := by
  rcases le_total 0 z with sign | sign
  · obtain ⟨k, rfl⟩ := Int.eq_ofNat_of_zero_le sign
    obtain ⟨m, hm⟩ := Int.eq_ofNat_of_zero_le (show 0 ≤ n + 1 by omega)
    rw [hm, zpow_natCast, zpow_natCast]
    exact_mod_cast ten_pow_le (k := k) (m := m) (by omega)
  · obtain ⟨k, hk⟩ := Int.eq_ofNat_of_zero_le (show 0 ≤ -z by omega)
    rcases le_total 0 (n + 1) with above | below
    · have small : (10 : ℚ) ^ z ≤ 1 := zpow_le_one_of_nonpos₀ (by norm_num) sign
      exact small.trans (one_le_zpow₀ (by norm_num) above)
    · obtain ⟨m, hm⟩ := Int.eq_ofNat_of_zero_le (show 0 ≤ -(n + 1) by omega)
      have inverse : (2 : ℚ) ^ m ≤ 10 ^ k := by
        exact_mod_cast two_pow_le (k := k) (m := m) (by omega)
      rw [show z = -(k : ℤ) by omega, show n + 1 = -(m : ℤ) by omega, zpow_neg, zpow_neg,
        zpow_natCast, zpow_natCast]
      exact inv_anti₀ (by positivity) inverse

/-- The last power of ten that is tried is small. -/
theorem fine_at_last {x : Binary64} (h : x.IsCanonical) :
    (10 : ℚ) ^ ((((x.mantissa.log2 : ℤ) + x.exponent) * 30103).fdiv 100000 + 1 - (20 : ℕ)) <
      x.quarter := by
  have fits : x.mantissa.log2 ≤ 52 := by
    by_cases zero : x.mantissa = 0
    · simp [zero]
    · have := (Nat.log2_lt zero).mpr (show x.mantissa < 2 ^ 53 from h.fits)
      omega
  have least : -1074 ≤ x.exponent := h.least
  have greatest : x.exponent ≤ 971 := h.greatest
  set n := (x.mantissa.log2 : ℤ) + x.exponent with hn
  have share : (n * 30103).fdiv 100000 * 100000 ≤ n * 30103 := by
    rw [Int.fdiv_eq_ediv_of_nonneg _ (by decide)]
    exact Int.ediv_mul_le _ (by decide)
  have power : (10 : ℚ) ^ (n * 30103).fdiv 100000 ≤ 2 ^ (x.exponent + 53) :=
    (ten_zpow_le (by omega) (by omega) share).trans (zpow_le_zpow_right₀ (by norm_num) (by omega))
  have quarter : (2 : ℚ) ^ (x.exponent + 53) = x.quarter * 2 ^ (55 : ℕ) := by
    rw [Binary64.quarter, ← zpow_natCast, ← zpow_add₀ two_ne_zero]
    congr 1
    ring
  have last : (n * 30103).fdiv 100000 + 1 - (20 : ℕ) = (n * 30103).fdiv 100000 - (19 : ℕ) := by
    push_cast
    ring
  rw [last, zpow_sub₀ (by norm_num), zpow_natCast, div_lt_iff₀ (by positivity)]
  calc (10 : ℚ) ^ (n * 30103).fdiv 100000 ≤ x.quarter * 2 ^ (55 : ℕ) := quarter ▸ power
    _ < x.quarter * 10 ^ 19 := mul_lt_mul_of_pos_left (by norm_num) x.quarter_pos

theorem shortest_reads {x : Binary64} (h : x.IsCanonical) (nonzero : x.mantissa ≠ 0) :
    x.Reads x.shortest.value := by
  have busy : x.isZero = false := by simpa [isZero] using nonzero
  rw [shortest, busy]
  simp only [Bool.false_eq_true, if_false]
  rw [value_stripZeros]
  exact search_reads nonzero 20 _ (fine_at_last h)

/-! ### Numbers apart -/

theorem Reads.lt_of_odd {x : Binary64} {v : ℚ} (h : x.Reads v) (odd : x.mantissa % 2 ≠ 0) :
    x.low < v ∧ v < x.high := by
  rwa [Reads, if_neg odd] at h

/-- A greater exponent at least doubles the distances. -/
theorem two_mul_quarter_le {x y : Binary64} (finer : x.exponent < y.exponent) :
    2 * x.quarter ≤ y.quarter := by
  have next : 2 * x.quarter = (2 : ℚ) ^ (x.exponent - 1) := by
    rw [Binary64.quarter, show x.exponent - 1 = 1 + (x.exponent - 2) by ring,
      zpow_add₀ two_ne_zero, zpow_one]
  rw [next, Binary64.quarter]
  exact zpow_le_zpow_right₀ (by norm_num) (by omega)

/-- A number with all its bits, down to the end of what rounds to it. -/
theorem full_le_low {y : Binary64} (full : leastFull ≤ y.mantissa)
    (coarse : leastExponent < y.exponent) :
    (18014398509481983 : ℚ) ≤ 4 * y.mantissa - y.reach := by
  have bits : (4 * leastFull - 1 : ℕ) ≤ 4 * y.mantissa - y.reach := by
    unfold reach
    split
    · omega
    · rename_i wide
      have more : y.mantissa ≠ leastFull := fun same => wide ⟨same, coarse⟩
      omega
  have fits : y.reach ≤ 4 * y.mantissa := by
    have := y.reach_le
    have : 0 < leastFull := by decide
    omega
  have cast := Nat.cast_le (α := ℚ).mpr bits
  rw [Nat.cast_sub fits] at cast
  push_cast at cast
  exact cast

/-- Between a number and one with a greater exponent. The latter has all its bits, and its quarter
is at least twice as large. -/
theorem apart_of_exponent {x y : Binary64} (hx : x.IsCanonical) (hy : y.IsCanonical)
    (finer : x.exponent < y.exponent) :
    x.high < y.low ∨ x.high ≤ y.low ∧ x.mantissa % 2 ≠ 0 := by
  have qx := x.quarter_pos
  have coarse : leastExponent < y.exponent := lt_of_le_of_lt hx.least finer
  have full := full_le_low (hy.full.resolve_right coarse.ne') coarse
  have low : (18014398509481983 : ℚ) * (2 * x.quarter) ≤ y.low :=
    mul_le_mul full (two_mul_quarter_le finer) (by positivity) (le_trans (by norm_num) full)
  have fits : x.mantissa < 9007199254740992 := hx.fits
  by_cases even : x.mantissa % 2 = 0
  · left
    have room : (x.mantissa : ℚ) ≤ 9007199254740990 := by exact_mod_cast (by omega : _ ≤ _)
    unfold high
    nlinarith
  · right
    refine ⟨?_, even⟩
    have room : (x.mantissa : ℚ) ≤ 9007199254740991 := by exact_mod_cast (by omega : _ ≤ _)
    unfold high
    nlinarith

/-- Between a number and a greater one with the same exponent. -/
theorem apart_of_mantissa {x y : Binary64} (hx : x.IsCanonical) (same : x.exponent = y.exponent)
    (less : x.mantissa < y.mantissa) : x.high < y.low ∨
      x.high ≤ y.low ∧ (x.mantissa % 2 ≠ 0 ∨ y.mantissa % 2 ≠ 0) := by
  have qx := x.quarter_pos
  have quarter : y.quarter = x.quarter := by rw [Binary64.quarter, Binary64.quarter, same]
  have wide : y.reach = 2 := by
    rw [reach, if_neg]
    rintro ⟨power, coarse⟩
    rcases hx.full with full | least
    · omega
    · omega
  unfold high low
  rw [quarter, wide]
  by_cases next : x.mantissa + 1 = y.mantissa
  · right
    rw [← next]
    refine ⟨?_, by omega⟩
    push_cast
    linarith
  · left
    have more : (x.mantissa : ℚ) + 2 ≤ y.mantissa := by exact_mod_cast (by omega : _ ≤ _)
    push_cast
    nlinarith

/-- What reads back as a number does not read back as a greater one. -/
theorem not_reads_of_lt {x y : Binary64} (hx : x.IsCanonical) (hy : y.IsCanonical)
    (order : x.exponent < y.exponent ∨ x.exponent = y.exponent ∧ x.mantissa < y.mantissa) {v : ℚ}
    (rx : x.Reads v) (ry : y.Reads v) : False := by
  have below := ry.low_le
  have above := rx.le_high
  have apart : x.high < y.low ∨
      x.high ≤ y.low ∧ (x.mantissa % 2 ≠ 0 ∨ y.mantissa % 2 ≠ 0) := by
    rcases order with finer | ⟨same, less⟩
    · exact (apart_of_exponent hx hy finer).imp_right (And.imp_right Or.inl)
    · exact apart_of_mantissa hx same less
  rcases apart with gap | ⟨touch, odd | odd⟩
  · linarith
  · linarith [(rx.lt_of_odd odd).2]
  · linarith [(ry.lt_of_odd odd).1]

theorem eq_of_reads {x y : Binary64} (hx : x.IsCanonical) (hy : y.IsCanonical) {v : ℚ}
    (rx : x.Reads v) (ry : y.Reads v) : x.mantissa = y.mantissa ∧ x.exponent = y.exponent := by
  by_contra different
  have order : (x.exponent < y.exponent ∨ x.exponent = y.exponent ∧ x.mantissa < y.mantissa) ∨
      (y.exponent < x.exponent ∨ y.exponent = x.exponent ∧ y.mantissa < x.mantissa) := by omega
  rcases order with order | order
  · exact not_reads_of_lt hx hy order rx ry
  · exact not_reads_of_lt hy hx order ry rx

end Binary64

end TrafficTrace.Number
