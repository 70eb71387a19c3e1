import Mathlib.Algebra.GroupWithZero.Nat
import TrafficTrace.Retry

/-!
# The wait before an attempt

There is a wait before every attempt, whatever the bounds of a policy are. It doubles until it meets
the upper bound or has been doubled 31 times. An upper bound below the lower one counts as the lower
one, and the wait never changes then.
-/
namespace TrafficTrace.RetryPolicy

/-- How many times the wait has been doubled before an attempt. -/
def doublings (attempt : Nat) : Nat := min (attempt - 2) 31

theorem doublings_mono {m n : Nat} (h : m ≤ n) : doublings m ≤ doublings n := by
  rw [doublings, doublings]
  omega

theorem doublings_of_le {n : Nat} (h : n ≤ 33) : doublings n = n - 2 := by
  rw [doublings]
  omega

theorem doublings_of_ge {n : Nat} (h : 33 ≤ n) : doublings n = 31 := by
  rw [doublings]
  omega

variable (p : RetryPolicy)

/-- The lower bound plays no part, since doubling leads away from it. -/
theorem backoff_eq (n : Nat) :
    p.backoff n = min (p.minWait.mul (2 ^ doublings n)) (max p.maxWait p.minWait) :=
  Option.get_of_eq_some _ (p.backoff?_eq n)

/-- In whole nanoseconds there is no longest duration to look at. -/
theorem nanos_backoff (n : Nat) :
    (p.backoff n).nanos =
      min (p.minWait.nanos * 2 ^ doublings n) (max p.minWait.nanos p.maxWait.nanos) := by
  rw [backoff_eq, Duration.nanos_min_mul, Duration.nanos_max, Nat.max_comm]

theorem minWait_le_backoff (n : Nat) : p.minWait ≤ p.backoff n := by
  have positive : 0 < 2 ^ doublings n := Nat.two_pow_pos _
  have doubled : p.minWait.nanos ≤ p.minWait.nanos * 2 ^ doublings n :=
    Nat.le_mul_of_pos_right _ positive
  rw [Duration.le_def, nanos_backoff]
  omega

theorem backoff_le (n : Nat) : p.backoff n ≤ max p.minWait p.maxWait := by
  rw [Duration.le_def, nanos_backoff, Duration.nanos_max]
  omega

theorem backoff_mono {m n : Nat} (h : m ≤ n) : p.backoff m ≤ p.backoff n := by
  have powers : 2 ^ doublings m ≤ 2 ^ doublings n :=
    Nat.pow_le_pow_right (by decide) (doublings_mono h)
  have doubled : p.minWait.nanos * 2 ^ doublings m ≤ p.minWait.nanos * 2 ^ doublings n :=
    Nat.mul_le_mul_left _ powers
  rw [Duration.le_def, nanos_backoff, nanos_backoff]
  omega

/-- No step of the wait is undefined; the wait stays between its bounds and does not become shorter;
up to attempt 33 it is the lower bound doubled once for each attempt after the second, without
overflow or rounding, under the upper bound; from then on it stays as it is. -/
theorem backoff_doubles_within_bounds :
    (∀ n, p.backoff? n = some (p.backoff n)) ∧
      (∀ n, p.minWait ≤ p.backoff n ∧ p.backoff n ≤ max p.minWait p.maxWait) ∧
      (∀ m n, m ≤ n → p.backoff m ≤ p.backoff n) ∧
      (∀ n, 2 ≤ n → n ≤ 33 → (p.backoff n).nanos =
        min (p.minWait.nanos * 2 ^ (n - 2)) (max p.minWait.nanos p.maxWait.nanos)) ∧
      ∀ n, 33 ≤ n → p.backoff n = p.backoff 33 := by
  refine ⟨fun n => ?_, fun n => ?_, fun m n => p.backoff_mono, fun n _ last => ?_,
    fun n late => ?_⟩
  · rw [backoff, Option.some_get]
  · exact ⟨p.minWait_le_backoff n, p.backoff_le n⟩
  · rw [nanos_backoff, doublings_of_le last]
  · rw [backoff_eq, backoff_eq, doublings_of_ge late, doublings_of_ge (Nat.le_refl 33)]

/-- An upper bound of some centuries, which the doubling does not reach, and one below the lower
bound. -/
theorem backoff_doubles_within_bounds_far :
    let long : RetryPolicy := ⟨.ofMillis 100, .longest, 40⟩
    let crossed : RetryPolicy := ⟨.ofMillis 100, .zero, 40⟩
    (long.backoff 32).nanos = 107374182400000000 ∧ long.backoff 32 ≤ long.backoff 33 ∧
      long.backoff 4294967295 = long.backoff 33 ∧ (crossed.backoff 32).nanos = 100000000 := by
  intro long crossed
  obtain ⟨-, -, grows, exact, constant⟩ := long.backoff_doubles_within_bounds
  obtain ⟨-, -, -, exact', -⟩ := crossed.backoff_doubles_within_bounds
  refine ⟨?_, grows 32 33 (by decide), constant 4294967295 (by decide), ?_⟩
  · rw [exact 32 (by decide) (by decide)]
    decide +kernel
  · rw [exact' 32 (by decide) (by decide)]
    decide +kernel

end TrafficTrace.RetryPolicy
