import Mathlib.Data.Nat.Init
import TrafficTrace.Collector.Feed

/-!
# Ticks and arrivals in one order

A schedule is paced: its arrivals come in their order, each before the first tick that does not ring
earlier, and the source does not close after the first tick that is left out. Nothing else about a
schedule is needed to say how long an event can wait.
-/
namespace TrafficTrace.Feed

namespace Ticker

variable {grain : Nat}

theorem roundUp_le_iff (positive : 0 < grain) (t u : Nat) :
    roundUp grain t ≤ u ↔ t ≤ u / grain * grain := by
  have whole : (t + grain - 1) / grain ≤ u / grain ↔ t ≤ u / grain * grain := by
    rw [Nat.div_le_iff_le_mul_add_pred positive, Nat.mul_comm grain]
    omega
  rw [roundUp, ← whole, Nat.le_div_iff_mul_le positive]

theorem le_roundUp (positive : 0 < grain) (t : Nat) : t ≤ roundUp grain t :=
  Nat.le_trans ((roundUp_le_iff positive t _).mp (Nat.le_refl _)) (Nat.div_mul_le_self _ _)

theorem roundUp_of_dvd (positive : 0 < grain) {t : Nat} (whole : grain ∣ t) :
    roundUp grain t = t := by
  apply Nat.le_antisymm
  · exact (roundUp_le_iff positive t t).mpr (Nat.le_of_eq (Nat.div_mul_cancel whole).symm)
  · exact le_roundUp positive t

theorem dvd_roundUp (grain t : Nat) : grain ∣ roundUp grain t := Nat.dvd_mul_left _ _

theorem roundUp_mono (positive : 0 < grain) {t u : Nat} (le : t ≤ u) :
    roundUp grain t ≤ roundUp grain u := by
  rw [roundUp_le_iff positive, Nat.div_mul_cancel (dvd_roundUp grain u)]
  exact Nat.le_trans le (le_roundUp positive u)

theorem roundUp_add_le (positive : 0 < grain) (t u : Nat) :
    roundUp grain (t + u) ≤ roundUp grain t + roundUp grain u := by
  have whole := Nat.dvd_add (dvd_roundUp grain t) (dvd_roundUp grain u)
  rw [roundUp_le_iff positive, Nat.div_mul_cancel whole]
  exact Nat.add_le_add (le_roundUp positive t) (le_roundUp positive u)

/-- The longest time between two ticks in a row. -/
def pause (k : Ticker) : Nat := roundUp k.grain k.period

/-- A ticker that goes on. -/
structure Runs (k : Ticker) : Prop where
  grain : 0 < k.grain
  period : 0 < k.period

namespace Runs

variable {k : Ticker}

theorem pause_pos (h : k.Runs) : 0 < k.pause :=
  Nat.lt_of_lt_of_le h.period (le_roundUp h.grain k.period)

theorem ringAt_zero (h : k.Runs) : k.ringAt 0 = 0 := by
  rw [ringAt, Nat.zero_mul]
  exact roundUp_of_dvd h.grain (Nat.dvd_zero _)

theorem ringAt_mono (h : k.Runs) {m n : Nat} (le : m ≤ n) : k.ringAt m ≤ k.ringAt n :=
  roundUp_mono h.grain (Nat.mul_le_mul_right _ le)

theorem ringAt_succ_le (h : k.Runs) (n : Nat) : k.ringAt (n + 1) ≤ k.ringAt n + k.pause := by
  rw [ringAt, Nat.succ_mul]
  exact roundUp_add_le h.grain _ _

theorem lt_countBefore_iff (h : k.Runs) (n : Nat) (t : Instant) :
    n < k.countBefore t ↔ k.ringAt n < t := by
  by_cases start : t = 0
  · simp [countBefore, start]
  · have late : 0 < t := Nat.pos_of_ne_zero start
    calc n < k.countBefore t
        ↔ n ≤ (t - 1) / k.grain * k.grain / k.period := by
          rw [countBefore, if_neg start, Nat.lt_succ_iff]
      _ ↔ n * k.period ≤ (t - 1) / k.grain * k.grain := Nat.le_div_iff_mul_le h.period
      _ ↔ k.ringAt n ≤ t - 1 := (roundUp_le_iff h.grain _ _).symm
      _ ↔ k.ringAt n < t := Nat.le_sub_one_iff_lt late

/-- If all ticks so far rang before some time, the next one rings less than a pause after it. -/
theorem ringAt_lt (h : k.Runs) {next : Nat} {t : Instant} (before : ∀ n < next, k.ringAt n < t) :
    k.ringAt next < t + k.pause := by
  cases next with
  | zero =>
    rw [h.ringAt_zero]
    exact Nat.add_pos_right t h.pause_pos
  | succ n =>
    have last := before n (Nat.lt_succ_self n)
    exact Nat.lt_of_le_of_lt (h.ringAt_succ_le n) (Nat.add_lt_add_right last k.pause)

/-- What does not ring before `t` rings at `t` or later. -/
theorem le_ringAt (h : k.Runs) (next : Nat) (t : Instant) :
    t ≤ k.ringAt (max next (k.countBefore t)) := by
  apply Nat.le_of_not_lt
  rw [← h.lt_countBefore_iff]
  omega

theorem ringAt_le (h : k.Runs) {next : Nat} {now t : Instant} (le : now ≤ t)
    (rung : ∀ n < next, k.ringAt n ≤ now) :
    ∀ n < max next (k.countBefore t), k.ringAt n ≤ t := by
  intro n lt
  by_cases before : n < next
  · exact Nat.le_trans (rung n before) le
  · exact Nat.le_of_lt ((h.lt_countBefore_iff n t).mp (by omega))

end Runs

theorem runs_every (tick : Duration) {grain : Nat} (positive : 0 < grain) :
    (every tick grain).Runs where
  grain := positive
  period := by
    have least : 0 < (Duration.ofMillis 1).nanos := by decide
    rw [every, Duration.nanos_max]
    exact Nat.lt_of_lt_of_le least (Nat.le_max_right _ _)

/-- A clock that is not held back has the period it was asked for. -/
theorem every_of_le {tick : Duration} (slow : .ofMillis 1 ≤ tick) (grain : Nat) :
    every tick grain = ⟨tick.nanos, grain⟩ := by
  rw [every, Duration.nanos_max, Nat.max_eq_left (Duration.le_def.mp slow)]

theorem ringAt_fine (period n : Nat) : (⟨period, 1⟩ : Ticker).ringAt n = n * period :=
  roundUp_of_dvd Nat.one_pos (Nat.one_dvd _)

theorem pause_fine (period : Nat) : (⟨period, 1⟩ : Ticker).pause = period :=
  roundUp_of_dvd Nat.one_pos (Nat.one_dvd _)

end Ticker

/-- What may still come at a time when tick `next` has not rung and these arrivals are left. -/
inductive Paced (k : Ticker) (close : Instant) :
    Nat → Instant → List (Instant × Event) → List (Instant × Occurrence) → Prop
  | ended {next : Nat} {now : Instant} (closed : close ≤ k.ringAt next) :
      Paced k close next now [] []
  | event {next : Nat} {now t : Instant} {e : Event} {arrivals : List (Instant × Event)}
      {rest : List (Instant × Occurrence)} (later : now ≤ t) (first : t ≤ k.ringAt next)
      (tail : Paced k close next t arrivals rest) :
      Paced k close next now ((t, e) :: arrivals) ((t, .event e) :: rest)
  | tick {next : Nat} {now : Instant} {arrivals : List (Instant × Event)}
      {rest : List (Instant × Occurrence)} (later : now ≤ k.ringAt next)
      (tail : Paced k close (next + 1) (k.ringAt next) arrivals rest) :
      Paced k close next now arrivals ((k.ringAt next, .tick) :: rest)

variable {k : Ticker} {close : Instant} {arrivals : List (Instant × Event)}

/-- Ticks from `next` on that ring before `t`, then what comes at `t` or later. -/
theorem Paced.ticks (runs : k.Runs) {t : Instant} {rest : List (Instant × Occurrence)}
    {count next : Nat} {now : Instant} (le : now ≤ t) (due : now ≤ k.ringAt next)
    (early : ∀ n < next + count, k.ringAt n ≤ t)
    (tail : ∀ now ≤ t, Paced k close (next + count) now arrivals rest) :
    Paced k close next now arrivals
      ((List.range' next count).map (fun n => (k.ringAt n, .tick)) ++ rest) := by
  -- on the number of ticks; the time of the last one is not known, so `tail` has to fit any
  induction count generalizing next now with
  | zero => exact tail now le
  | succ count ih =>
    rw [List.range'_succ, List.map_cons, List.cons_append]
    apply Paced.tick due
    apply ih
    · exact early next (by omega)
    · exact runs.ringAt_mono (Nat.le_succ next)
    · intro n lt
      exact early n (by omega)
    · intro now' le'
      rw [Nat.add_assoc, Nat.add_comm 1]
      exact tail now' le'

theorem Paced.between (runs : k.Runs) {t : Instant} {rest : List (Instant × Occurrence)}
    {next : Nat} {now : Instant} (le : now ≤ t) (due : now ≤ k.ringAt next)
    (rung : ∀ n < next, k.ringAt n ≤ now)
    (tail : ∀ now ≤ t, Paced k close (max next (k.countBefore t)) now arrivals rest) :
    Paced k close next now arrivals (k.between next t ++ rest) := by
  have whole : next + (k.countBefore t - next) = max next (k.countBefore t) := by omega
  rw [Ticker.between]
  apply Paced.ticks runs le due
  · rw [whole]
    exact runs.ringAt_le le rung
  · rw [whole]
    exact tail

/-- A schedule of arrivals in their order is paced. -/
theorem paced_schedule (runs : k.Runs) {next : Nat} {now : Instant}
    (sorted : arrivals.Pairwise fun x y => x.1 ≤ y.1) (later : ∀ q ∈ arrivals, now ≤ q.1)
    (timely : ∀ q ∈ arrivals, q.1 ≤ close) (le : now ≤ close) (due : now ≤ k.ringAt next)
    (rung : ∀ n < next, k.ringAt n ≤ now) :
    Paced k close next now arrivals (schedule k close next arrivals) := by
  induction arrivals generalizing next now with
  | nil =>
    rw [schedule, ← List.append_nil (k.between next close)]
    apply Paced.between runs le due rung
    intro _ _
    exact .ended (runs.le_ringAt next close)
  | cons q rest ih =>
    obtain ⟨t, e⟩ := q
    obtain ⟨first, others⟩ := List.pairwise_cons.mp sorted
    have le' : now ≤ t := later (t, e) List.mem_cons_self
    have reached := runs.le_ringAt next t
    rw [schedule]
    apply Paced.between runs le' due rung
    intro now' early
    apply Paced.event early reached
    apply ih others first
    · exact fun q given => timely q (List.mem_cons_of_mem _ given)
    · exact timely (t, e) List.mem_cons_self
    · exact reached
    · exact runs.ringAt_le le' rung

end TrafficTrace.Feed
