import Mathlib.Algebra.Order.BigOperators.Group.List
import Mathlib.Algebra.Order.Ring.Nat
import Mathlib.Data.List.Induction
import TrafficTrace.Metrics.Basic

/-!
# Averages of recorded durations

The metrics keep the number of durations and their sum, and an average is a quotient of the two. It
takes the number in 32 bits. So it is the true average of fewer than `2^32` durations, and of more it
is the quotient by what is left of their number: there is none where nothing is left, and otherwise
it may be longer than any of them.
-/
namespace TrafficTrace

namespace Duration

/-- The sum in nanoseconds, which may be too long for a duration. -/
def sum (ds : List Duration) : Nat := (ds.map nanos).sum

theorem sum_concat (ds : List Duration) (d : Duration) : sum (ds ++ [d]) = sum ds + d.nanos := by
  simp [sum]

theorem sum_replicate (n : Nat) (d : Duration) : sum (List.replicate n d) = n * d.nanos := by
  simp [sum]

variable {ds : List Duration} {bound : Duration}

theorem sum_le (upper : ∀ d ∈ ds, d ≤ bound) : sum ds ≤ ds.length * bound.nanos := by
  have each : ∀ n ∈ ds.map nanos, n ≤ bound.nanos := by
    intro n hn
    obtain ⟨d, hd, rfl⟩ := List.mem_map.mp hn
    exact upper d hd
  simpa [sum] using List.sum_le_card_nsmul _ _ each

theorem le_sum (lower : ∀ d ∈ ds, bound ≤ d) : ds.length * bound.nanos ≤ sum ds := by
  have each : ∀ n ∈ ds.map nanos, bound.nanos ≤ n := by
    intro n hn
    obtain ⟨d, hd, rfl⟩ := List.mem_map.mp hn
    exact lower d hd
  simpa [sum] using List.card_nsmul_le_sum _ _ each

/-- The quotient of the sum by the number, without the fraction of a nanosecond. -/
def IsMean (ds : List Duration) (d : Duration) : Prop := d.nanos = sum ds / ds.length

theorem IsMean.within {mean low high : Duration} (h : IsMean ds mean) (nonempty : ds ≠ [])
    (lower : ∀ d ∈ ds, low ≤ d) (upper : ∀ d ∈ ds, d ≤ high) : low ≤ mean ∧ mean ≤ high := by
  have positive : 0 < ds.length := List.length_pos_iff.mpr nonempty
  rw [le_def, le_def, h]
  constructor
  · apply (Nat.le_div_iff_mul_le positive).mpr
    rw [Nat.mul_comm]
    exact le_sum lower
  · exact Nat.div_le_of_le_mul (sum_le upper)

end Duration

/-- A number and a sum, kept under the longest duration, are those of the given durations. -/
structure Tallies (ds : List Duration) (total : Duration) (count : Nat) : Prop where
  total : total.nanos = min (Duration.sum ds) Duration.limit
  count : count = ds.length

namespace Tallies

variable {ds : List Duration} {d total : Duration} {count : Nat}

theorem nil : Tallies [] .zero 0 where
  total := by simp [Duration.sum, Duration.zero]
  count := rfl

theorem concat (h : Tallies ds total count) (d : Duration) :
    Tallies (ds ++ [d]) (total.add d) (count + 1) where
  total := by
    have before := h.total
    rw [Duration.nanos_add, Duration.sum_concat]
    omega
  count := by rw [h.count, List.length_append, List.length_singleton]

theorem total_eq (h : Tallies ds total count) (fits : Duration.sum ds ≤ Duration.limit) :
    total.nanos = Duration.sum ds := by
  rw [h.total]
  omega

/-- The number in 32 bits decides whether there is an average, and what it is. -/
theorem average?_eq_some_iff (h : Tallies ds total count) (nonempty : ds ≠ [])
    (fits : Duration.sum ds ≤ Duration.limit) :
    average? total count = some d ↔ ds.length % UInt32.size ≠ 0 ∧
      d.nanos = Duration.sum ds / (ds.length % UInt32.size) := by
  have positive : ds.length ≠ 0 := List.length_eq_zero_iff.not.mpr nonempty
  have quotient (n : Nat) : (total.div n).nanos = Duration.sum ds / n := by
    rw [← h.total_eq fits]
    rfl
  rw [average?, h.count, if_neg positive]
  by_cases wraps : ds.length % UInt32.size = 0
  · simp [wraps]
  · rw [if_neg wraps, Option.some_inj, ← quotient]
    constructor
    · rintro rfl
      exact ⟨wraps, rfl⟩
    · rintro ⟨-, same⟩
      exact Duration.ext same.symm

theorem average?_eq_none_iff (h : Tallies ds total count) (nonempty : ds ≠ []) :
    average? total count = none ↔ ds.length % UInt32.size = 0 := by
  have positive : ds.length ≠ 0 := List.length_eq_zero_iff.not.mpr nonempty
  rw [average?, h.count, if_neg positive]
  by_cases wraps : ds.length % UInt32.size = 0
  · simp [wraps]
  · simp [wraps]

/-- The average of fewer than `2^32` durations is the true one. -/
theorem exists_mean (h : Tallies ds total count) (nonempty : ds ≠ [])
    (fits : Duration.sum ds ≤ Duration.limit) (small : ds.length < UInt32.size) :
    ∃ d, average? total count = some d ∧ Duration.IsMean ds d := by
  have kept : ds.length % UInt32.size = ds.length := Nat.mod_eq_of_lt small
  have positive : ds.length ≠ 0 := List.length_eq_zero_iff.not.mpr nonempty
  refine ⟨total.div ds.length, (h.average?_eq_some_iff nonempty fits).mpr ?_, ?_⟩
  · rw [kept]
    exact ⟨positive, by rw [← h.total_eq fits]; rfl⟩
  · rw [Duration.IsMean, ← h.total_eq fits]
    rfl

end Tallies

namespace CallMetrics

/-- The metrics of calls with the given durations and successes. -/
def recordAll (samples : List (Duration × Bool)) : CallMetrics :=
  samples.foldl (fun m s => m.record s.1 s.2) empty

theorem tallies_recordAll (samples : List (Duration × Bool)) :
    Tallies (samples.map Prod.fst) (recordAll samples).total (recordAll samples).calls := by
  induction samples using List.reverseRecOn with
  | nil => exact .nil
  | append_singleton samples s ih =>
    rw [recordAll, List.foldl_append, List.map_append]
    exact ih.concat s.1

end CallMetrics

namespace OperationMetrics

def recordAll (ds : List Duration) : OperationMetrics := ds.foldl record empty

theorem tallies_recordAll (ds : List Duration) :
    Tallies ds (recordAll ds).total (recordAll ds).count := by
  induction ds using List.reverseRecOn with
  | nil => exact .nil
  | append_singleton ds d ih =>
    rw [recordAll, List.foldl_append]
    exact ih.concat d

end OperationMetrics

/-- What both kinds of metrics give for any calls whose durations have a sum that is a duration: the
quotient of the sum by what is left of the number in 32 bits, and nothing where nothing is left. Of
fewer than `2^32` calls that is the true average, which lies between the shortest and the longest. -/
theorem averages_are_quotients (samples : List (Duration × Bool)) (nonempty : samples ≠ [])
    (fits : Duration.sum (samples.map Prod.fst) ≤ Duration.limit) :
    let ds := samples.map Prod.fst
    let calls := CallMetrics.recordAll samples
    let runs := OperationMetrics.recordAll ds
    let average := average? calls.total calls.calls
    average? runs.total runs.count = average ∧
    (∀ d, average = some d ↔ ds.length % UInt32.size ≠ 0 ∧
      d.nanos = Duration.sum ds / (ds.length % UInt32.size)) ∧
    (average = none ↔ ds.length % UInt32.size = 0) ∧
    (ds.length < UInt32.size → ∃ mean, average = some mean ∧ Duration.IsMean ds mean ∧
      ∀ low high, (∀ d ∈ ds, low ≤ d) → (∀ d ∈ ds, d ≤ high) → low ≤ mean ∧ mean ≤ high) := by
  intro ds calls runs average
  have some_time : ds ≠ [] := fun none => nonempty (List.map_eq_nil_iff.mp none)
  have called : Tallies ds calls.total calls.calls := CallMetrics.tallies_recordAll samples
  have ran : Tallies ds runs.total runs.count := OperationMetrics.tallies_recordAll ds
  refine ⟨?_, fun d => called.average?_eq_some_iff some_time fits,
    called.average?_eq_none_iff some_time, fun small => ?_⟩
  · have total : runs.total = calls.total := Duration.ext (ran.total.trans called.total.symm)
    have count : runs.count = calls.calls := ran.count.trans called.count.symm
    rw [total, count]
  · obtain ⟨mean, found, isMean⟩ := called.exists_mean some_time fits small
    exact ⟨mean, found, isMean, fun low high lower upper => isMean.within some_time lower upper⟩

/-- The sum of `n` times a nanosecond. -/
theorem Duration.sum_replicate_nanosecond (n : Nat) :
    sum ((List.replicate n (ofNanos 1, true)).map Prod.fst) = n := by
  rw [List.map_replicate, sum_replicate]
  exact Nat.mul_one n

/-- One call more than `2^32`, each of a nanosecond: their average is more than four seconds. -/
theorem averages_are_quotients_of_one_more :
    let samples := List.replicate (UInt32.size + 1) (Duration.ofNanos 1, true)
    samples ≠ [] ∧ Duration.sum (samples.map Prod.fst) ≤ Duration.limit ∧
      average? (CallMetrics.recordAll samples).total (CallMetrics.recordAll samples).calls =
        some (.ofNanos (UInt32.size + 1)) := by
  intro samples
  have nonempty : samples ≠ [] := List.cons_ne_nil _ _
  have sum : Duration.sum (samples.map Prod.fst) = UInt32.size + 1 :=
    Duration.sum_replicate_nanosecond _
  have fits : Duration.sum (samples.map Prod.fst) ≤ Duration.limit := by
    rw [sum]
    decide
  have left : (samples.map Prod.fst).length % UInt32.size = 1 := by
    rw [List.length_map, List.length_replicate]
    decide
  obtain ⟨-, average, -, -⟩ := averages_are_quotients samples nonempty fits
  refine ⟨nonempty, fits, (average _).mpr ?_⟩
  rw [left, sum]
  exact ⟨Nat.one_ne_zero, by decide⟩

/-- Of a number of calls that `2^32` divides there is no average. -/
theorem no_average_of_multiple {n : Nat} (positive : 0 < n) (fits : n ≤ Duration.limit)
    (divides : n % UInt32.size = 0) :
    let samples := List.replicate n (Duration.ofNanos 1, true)
    let calls := CallMetrics.recordAll samples
    let runs := OperationMetrics.recordAll (samples.map Prod.fst)
    samples ≠ [] ∧ Duration.sum (samples.map Prod.fst) ≤ Duration.limit ∧
      average? calls.total calls.calls = none ∧ average? runs.total runs.count = none := by
  intro samples calls runs
  have called := CallMetrics.tallies_recordAll samples
  have ran := OperationMetrics.tallies_recordAll (samples.map Prod.fst)
  have length : (samples.map Prod.fst).length = n := by
    rw [List.length_map, List.length_replicate]
  have some_time : samples.map Prod.fst ≠ [] := by
    rw [← List.length_pos_iff, length]
    exact positive
  have nothing_left : (samples.map Prod.fst).length % UInt32.size = 0 := by rw [length, divides]
  refine ⟨fun none => some_time (List.map_eq_nil_iff.mpr none), ?_,
    (called.average?_eq_none_iff some_time).mpr nothing_left,
    (ran.average?_eq_none_iff some_time).mpr nothing_left⟩
  rw [Duration.sum_replicate_nanosecond]
  exact fits

/-- So there is none of `2^32` calls that took a nanosecond each. -/
theorem averages_fail_at_word_size :
    let samples := List.replicate UInt32.size (Duration.ofNanos 1, true)
    let calls := CallMetrics.recordAll samples
    let runs := OperationMetrics.recordAll (samples.map Prod.fst)
    samples ≠ [] ∧ Duration.sum (samples.map Prod.fst) ≤ Duration.limit ∧
      average? calls.total calls.calls = none ∧ average? runs.total runs.count = none :=
  no_average_of_multiple (by decide) (by decide) (Nat.mod_self _)

end TrafficTrace
