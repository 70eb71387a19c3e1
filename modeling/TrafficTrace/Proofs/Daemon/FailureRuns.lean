import Mathlib.Algebra.GroupWithZero.Nat
import Mathlib.Data.List.Induction
import TrafficTrace.Daemon.PollState

/-!
# Failures in a row

The wait before the next poll is told by the calls made so far: it is zero unless the last of them
observed a failure, and then it doubles with every failure since the last success. Calls that observe
nothing may stand anywhere in between and may be left out.
-/
namespace TrafficTrace.PollState

/-- What a call observed. -/
def Call.result? : Call → Option PollResult
  | .observe r => some r
  | .begin_ | .settle => none

/-- How many failures were observed since the last other result. -/
def failureRun (calls : List Call) : Nat :=
  ((calls.filterMap Call.result?).reverse.takeWhile fun r => r = .failed).length

variable {calls more : List Call} {c : Call} {r : PollResult}

theorem failureRun_concat_quiet (quiet : c.result? = none) :
    failureRun (calls ++ [c]) = failureRun calls := by
  have unobserved : [c].filterMap Call.result? = [] := by simp [quiet]
  rw [failureRun, List.filterMap_append, unobserved, List.append_nil]
  rfl

theorem failureRun_concat_failed :
    failureRun (calls ++ [Call.observe .failed]) = failureRun calls + 1 := by
  simp [failureRun, Call.result?]

theorem failureRun_concat_success (success : r ≠ .failed) :
    failureRun (calls ++ [Call.observe r]) = 0 := by
  simp [failureRun, Call.result?, success]

/-- While nothing but failures is observed, the row does not become shorter. -/
theorem failureRun_le_append (failed : ∀ r, .observe r ∈ more → r = .failed) :
    failureRun calls ≤ failureRun (calls ++ more) := by
  induction more using List.reverseRecOn with
  | nil => simp
  | append_singleton more c ih =>
    have before : failureRun calls ≤ failureRun (calls ++ more) :=
      ih fun r hr => failed r (List.mem_append_left _ hr)
    rw [← List.append_assoc]
    cases c with
    | begin_ => rwa [failureRun_concat_quiet rfl]
    | settle => rwa [failureRun_concat_quiet rfl]
    | observe r =>
      obtain rfl := failed r (List.mem_append_right _ List.mem_cons_self)
      rw [failureRun_concat_failed]
      omega

theorem failureRun_append_quiet (quiet : ∀ c ∈ more, c.result? = none) :
    failureRun (calls ++ more) = failureRun calls := by
  induction more using List.reverseRecOn with
  | nil => rw [List.append_nil]
  | append_singleton more c ih =>
    have last : c.result? = none := quiet c (List.mem_append_right _ List.mem_cons_self)
    have before := ih fun d hd => quiet d (List.mem_append_left _ hd)
    rw [← List.append_assoc, failureRun_concat_quiet last, before]

theorem run_concat (s : PollState) (calls : List Call) (c : Call) :
    s.run (calls ++ [c]) = (s.run calls).step c := by
  rw [run, run, List.foldl_append]
  rfl

theorem phase_step (s : PollState) (c : Call) :
    (s.step c).phase = .backoff ↔ c = .observe .failed := by
  cases c with
  | begin_ => simp [step, begin_]
  | settle => simp [step, settle]
  | observe r => cases r <;> simp [step, observe]

theorem errorBackoff_step (s : PollState) (c : Call) : (s.step c).errorBackoff = s.errorBackoff := by
  cases c with
  | begin_ => rfl
  | settle => rfl
  | observe r => cases r <;> rfl

theorem maxErrorBackoff_step (s : PollState) (c : Call) :
    (s.step c).maxErrorBackoff = s.maxErrorBackoff := by
  cases c with
  | begin_ => rfl
  | settle => rfl
  | observe r => cases r <;> rfl

/-- What a state holds of the calls that led to it. -/
structure Remembers (e m : Duration) (calls : List Call) (s : PollState) : Prop where
  failures : s.failures = min (failureRun calls) failureLimit
  phase : s.phase = .backoff ↔ calls.getLast? = some (.observe .failed)
  errorBackoff : s.errorBackoff = e
  maxErrorBackoff : s.maxErrorBackoff = max m e

variable {e m : Duration} {s : PollState}

theorem remembers_start : Remembers e m [] (start e m) where
  failures := rfl
  phase := by simp [start]
  errorBackoff := rfl
  maxErrorBackoff := rfl

namespace Remembers

/-- Only what is observed changes the count, and every call decides the phase. -/
theorem step (h : Remembers e m calls s) (c : Call) :
    Remembers e m (calls ++ [c]) (s.step c) where
  failures := by
    have count := h.failures
    cases c with
    | begin_ =>
      rw [failureRun_concat_quiet rfl]
      exact count
    | settle =>
      rw [failureRun_concat_quiet rfl]
      exact count
    | observe r =>
      cases r with
      | failed =>
        show min (s.failures + 1) failureLimit = _
        rw [failureRun_concat_failed]
        omega
      | changed =>
        have success : PollResult.changed ≠ .failed := nofun
        rw [failureRun_concat_success success]
        rfl
      | timedOut =>
        have success : PollResult.timedOut ≠ .failed := nofun
        rw [failureRun_concat_success success]
        rfl
  phase := by rw [phase_step, List.getLast?_concat, Option.some.injEq]
  errorBackoff := (errorBackoff_step s c).trans h.errorBackoff
  maxErrorBackoff := (maxErrorBackoff_step s c).trans h.maxErrorBackoff

theorem run (e m : Duration) (calls : List Call) :
    Remembers e m calls ((start e m).run calls) := by
  induction calls using List.reverseRecOn with
  | nil => exact remembers_start
  | append_singleton calls c ih =>
    rw [run_concat]
    exact ih.step c

theorem nextDelay_eq_zero (h : Remembers e m calls s)
    (last : calls.getLast? ≠ some (.observe .failed)) : s.nextDelay = .zero := by
  have calm : ¬ (s.phase = .backoff ∧ s.failures ≠ 0) := fun ⟨phase, _⟩ => last (h.phase.mp phase)
  rw [nextDelay, if_neg calm]

/-- The limit of the counter lies beyond the failures that still double the wait. -/
theorem nanos_nextDelay (h : Remembers e m (calls ++ [Call.observe .failed]) s) :
    s.nextDelay.nanos =
      min (e.nanos * 2 ^ min (failureRun calls) 16) (max e.nanos m.nanos) := by
  have count : s.failures = min (failureRun calls + 1) failureLimit := by
    rw [h.failures, failureRun_concat_failed]
  have limit : failureLimit = 4294967295 := rfl
  have waiting : s.phase = .backoff ∧ s.failures ≠ 0 :=
    ⟨h.phase.mpr List.getLast?_concat, by omega⟩
  -- A counter that has stopped is still far above 16.
  have doublings : min (s.failures - 1) 16 = min (failureRun calls) 16 := by omega
  rw [nextDelay, if_pos waiting, Duration.nanos_min_mul, h.errorBackoff, h.maxErrorBackoff,
    doublings, Duration.nanos_max, Nat.max_comm]
  rfl

theorem nextDelay_mono {s' : PollState} (h : Remembers e m (calls ++ [Call.observe .failed]) s)
    (h' : Remembers e m (more ++ [Call.observe .failed]) s')
    (longer : failureRun calls ≤ failureRun more) : s.nextDelay ≤ s'.nextDelay := by
  have powers : 2 ^ min (failureRun calls) 16 ≤ 2 ^ min (failureRun more) 16 :=
    Nat.pow_le_pow_right (by decide) (by omega)
  have doubled := Nat.mul_le_mul_left e.nanos powers
  rw [Duration.le_def, h.nanos_nextDelay, h'.nanos_nextDelay]
  omega

theorem nextDelay_of_first (h : Remembers e m (calls ++ [Call.observe .failed]) s)
    (first : failureRun calls = 0) : s.nextDelay = e := by
  apply Duration.ext
  rw [h.nanos_nextDelay, first, Nat.zero_min, pow_zero, Nat.mul_one]
  omega

theorem nextDelay_le (h : Remembers e m calls s) : s.nextDelay ≤ max e m := by
  rw [Duration.le_def, Duration.nanos_max]
  by_cases waiting : s.phase = .backoff ∧ s.failures ≠ 0
  · rw [nextDelay, if_pos waiting, Duration.nanos_min, h.maxErrorBackoff, Duration.nanos_max]
    omega
  · rw [nextDelay, if_neg waiting]
    exact Nat.zero_le _

end Remembers

/-- The count of failures is that of the failures in a row, in 32 bits. The wait is zero unless the
last call observed a failure. The first failure in a row is followed by the shorter wait, and each
further one doubles it, without overflow or rounding, 16 times at most and up to the longer of the
two. So it does not become shorter while failures go on, and starts again after any success. -/
theorem delays_follow_failures (e m : Duration) :
    let after (calls : List Call) : PollState := (start e m).run calls
    (∀ calls : List Call, (after calls).failures = min (failureRun calls) (2 ^ 32 - 1)) ∧
      (∀ calls : List Call, (after (calls ++ [Call.begin_])).failures = (after calls).failures ∧
        (after (calls ++ [Call.settle])).failures = (after calls).failures) ∧
      (∀ calls : List Call, calls.getLast? ≠ some (.observe .failed) →
        (after calls).nextDelay = .zero) ∧
      (∀ (calls : List Call) (k : Nat), failureRun (calls ++ [Call.observe .failed]) = k →
        (k ≤ 17 → (after (calls ++ [Call.observe .failed])).nextDelay.nanos =
          min (e.nanos * 2 ^ (k - 1)) (max e.nanos m.nanos)) ∧
        (17 < k → (after (calls ++ [Call.observe .failed])).nextDelay.nanos =
          min (e.nanos * 2 ^ 16) (max e.nanos m.nanos))) ∧
      (∀ calls more : List Call, (∀ r, .observe r ∈ more → r = .failed) →
        (after (calls ++ [Call.observe .failed])).nextDelay ≤
          (after (calls ++ [Call.observe .failed] ++ more ++ [Call.observe .failed])).nextDelay) ∧
      (∀ calls : List Call, (after calls).nextDelay ≤ max e m) ∧
      ∀ (calls more : List Call) (r : PollResult), r ≠ .failed → (∀ c ∈ more, c.result? = none) →
        (after (calls ++ [Call.observe r] ++ more ++ [Call.observe .failed])).nextDelay = e := by
  intro after
  have holds (calls : List Call) : Remembers e m calls (after calls) := Remembers.run e m calls
  have limit : failureLimit = 2 ^ 32 - 1 := rfl
  refine ⟨fun calls => ?_, fun calls => ⟨?_, ?_⟩, fun calls => (holds calls).nextDelay_eq_zero,
    fun calls k row => ⟨fun small => ?_, fun large => ?_⟩, fun calls more failed => ?_,
    fun calls => (holds calls).nextDelay_le, fun calls more r success quiet => ?_⟩
  · rw [(holds calls).failures, limit]
  · rw [(holds _).failures, (holds _).failures, failureRun_concat_quiet rfl]
  · rw [(holds _).failures, (holds _).failures, failureRun_concat_quiet rfl]
  · rw [failureRun_concat_failed] at row
    have doublings : min (failureRun calls) 16 = k - 1 := by omega
    rw [(holds _).nanos_nextDelay, doublings]
  · rw [failureRun_concat_failed] at row
    have doublings : min (failureRun calls) 16 = 16 := by omega
    rw [(holds _).nanos_nextDelay, doublings]
  · have grows : failureRun (calls ++ [Call.observe .failed]) ≤
        failureRun (calls ++ [Call.observe .failed] ++ more) := failureRun_le_append failed
    rw [failureRun_concat_failed] at grows
    exact (holds _).nextDelay_mono (holds _) (by omega)
  · have none : failureRun (calls ++ [Call.observe r] ++ more) = 0 := by
      rw [failureRun_append_quiet quiet, failureRun_concat_success success]
    exact (holds _).nextDelay_of_first none

/-- Three failures around a call that observes nothing, a success that is not settled, and one more
failure. -/
theorem delays_follow_failures_restarted :
    let after (calls : List Call) : PollState := standard.run calls
    let failures : List Call := [.observe .failed, .observe .failed, .begin_, .observe .failed]
    (after failures).nextDelay = .ofSecs 20 ∧
      (after (failures ++ [.observe .timedOut])).nextDelay = .zero ∧
      (after (failures ++ [.observe .timedOut, .begin_, .observe .failed])).nextDelay = .ofSecs 5 := by
  intro after failures
  obtain ⟨-, -, zero, delay, -, -, restart⟩ := delays_follow_failures (.ofSecs 5) (.ofSecs 60)
  refine ⟨?_, zero _ (by decide), ?_⟩
  · have third := (delay [.observe .failed, .observe .failed, .begin_] 3 rfl).1 (by decide)
    apply Duration.ext
    exact third.trans (by decide +kernel)
  · exact restart failures [.begin_] .timedOut nofun (by decide)

end TrafficTrace.PollState
