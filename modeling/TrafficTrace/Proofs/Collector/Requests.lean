import TrafficTrace.Collector.Chain

/-!
# What requests leave alone

Where a collector sends is fixed. A request that succeeds leaves an open collector open, apart from
closing it.

A chain only ever asks the backend to append. What no append changes of the backend's state, no
request to a chain changes.
-/
namespace TrafficTrace

variable {σ : Type}

namespace BatchCollector

/-- Where a collector sends, and how. No request changes it. -/
def purpose (c : BatchCollector) : ServiceId × TraceId × BatchPolicy :=
  (c.service, c.trace, c.policy)

theorem purpose_flush (b : Backend σ) (c : BatchCollector) (s : σ) :
    (flush b c s).2.1.purpose = c.purpose := by
  rw [flush]
  split
  · rfl
  · split <;> rfl

theorem purpose_flushIfDue (b : Backend σ) (now : Instant) (c : BatchCollector) (s : σ) :
    (flushIfDue b now c s).2.1.purpose = c.purpose := by
  rw [flushIfDue]
  cases c.phase with
  | poisoned => rfl
  | closed => rfl
  | open_ =>
    dsimp only
    split
    · exact purpose_flush b c s
    · rfl

/-- Taking an event is buffering it and then looking whether the buffer is due. -/
theorem process_of_open {c : BatchCollector} (isOpen : c.phase = .open_) (b : Backend σ)
    (m : Moment) (e : Event) (s : σ) :
    c.process b m e s =
      (((c.push m.now (e.identified m.fresh)).flushIfDue b m.now s).1.map fun _ => .forwarded,
        ((c.push m.now (e.identified m.fresh)).flushIfDue b m.now s).2) := by
  have still : (c.push m.now (e.identified m.fresh)).phase = .open_ := isOpen
  rw [process, flushIfDue, isOpen, still]
  dsimp only
  split
  · rfl
  · rfl

theorem purpose_process (b : Backend σ) (m : Moment) (e : Event) (c : BatchCollector) (s : σ) :
    (process b m e c s).2.1.purpose = c.purpose := by
  cases phase : c.phase with
  | poisoned => rw [process, phase]
  | closed => rw [process, phase]
  | open_ =>
    rw [process_of_open phase]
    exact purpose_flushIfDue b m.now (c.push m.now (e.identified m.fresh)) s

theorem purpose_close (b : Backend σ) (c : BatchCollector) (s : σ) :
    (close b c s).2.1.purpose = c.purpose := by
  have same := purpose_flush b c s
  rw [close]
  cases c.phase with
  | poisoned => rfl
  | closed => rfl
  | open_ =>
    dsimp only
    split
    · rename_i sent
      rw [sent] at same
      exact same
    · exact same

/-- A flush of buffered events is one submission. -/
theorem flush_filled {b : Backend σ} {c : BatchCollector} (filled : c.buffer ≠ []) (s : σ) :
    (flush b c s).2.2 = (submit b c c.batch s).2 ∧
      ((flush b c s).1 = .ok () →
        Backend.Stamped.faultOf (submit b c c.batch s).1 = none) := by
  have busy : c.buffer.isEmpty = false := by simpa using filled
  rw [flush, busy]
  rcases submit b c c.batch s with ⟨e | answer, s'⟩
  · exact ⟨rfl, nofun⟩
  · exact ⟨rfl, fun _ => rfl⟩

/-- A flush that succeeds leaves the collector as open as it was. -/
theorem phase_of_flush_ok {b : Backend σ} {c : BatchCollector} {s : σ}
    (ok : (flush b c s).1 = .ok ()) : (flush b c s).2.1.phase = c.phase := by
  rw [flush] at ok ⊢
  split
  · rfl
  · rename_i busy
    simp only [busy] at ok
    rcases sent : submit b c c.batch s with ⟨e | _, s'⟩
    · simp [sent] at ok
    · rfl

/-- A flush that fails poisons it. -/
theorem phase_of_flush_error {b : Backend σ} {c : BatchCollector} {s : σ} {e : CollectorError}
    (failed : (flush b c s).1 = .error e) : (flush b c s).2.1.phase = .poisoned := by
  rw [flush] at failed ⊢
  split
  · rename_i empty
    simp [empty] at failed
  · rename_i busy
    simp only [busy] at failed
    rcases sent : submit b c c.batch s with ⟨e | _, s'⟩
    · rfl
    · simp [sent] at failed

theorem phase_of_flushIfDue_ok {b : Backend σ} {now : Instant} {c : BatchCollector} {s : σ}
    (ok : (flushIfDue b now c s).1 = .ok ()) : (flushIfDue b now c s).2.1.phase = c.phase := by
  rw [flushIfDue] at ok ⊢
  cases phase : c.phase with
  | poisoned => exact phase
  | closed => exact phase
  | open_ =>
    simp only [phase] at ok ⊢
    split
    · rename_i due
      simp only [due, if_true] at ok
      rw [phase_of_flush_ok ok, phase]
    · exact phase

theorem process_ok {b : Backend σ} {m : Moment} {e : Event} {c : BatchCollector} {s : σ}
    {d : Disposition} (ok : (process b m e c s).1 = .ok d) :
    c.phase = .open_ ∧ d = .forwarded ∧ (process b m e c s).2.1.phase = .open_ := by
  cases phase : c.phase with
  | poisoned => simp [process, phase] at ok
  | closed => simp [process, phase] at ok
  | open_ =>
    rw [process_of_open phase] at ok ⊢
    cases looked : (flushIfDue b m.now (c.push m.now (e.identified m.fresh)) s).1 with
    | error fault =>
      rw [looked] at ok
      cases ok
    | ok _ =>
      rw [looked] at ok
      exact ⟨rfl, by cases ok; rfl, (phase_of_flushIfDue_ok looked).trans phase⟩

theorem phase_of_close_ok {b : Backend σ} {c : BatchCollector} {s : σ}
    (ok : (close b c s).1 = .ok ()) : (close b c s).2.1.phase = .closed := by
  rw [close] at ok ⊢
  cases phase : c.phase with
  | poisoned => simp [phase] at ok
  | closed => exact phase
  | open_ =>
    simp only [phase] at ok ⊢
    rcases sent : flush b c s with ⟨fault | _, c', s'⟩
    · simp [sent] at ok
    · rfl

end BatchCollector

/-! ### The state of the backend -/

variable {α : Type}

/-- Appending leaves this view of the state as it is. -/
def Backend.AppendsKeep (b : Backend σ) (view : σ → α) : Prop :=
  ∀ service trace batch s, view (b.appendEvents service trace batch s).2 = view s

variable {b : Backend σ} {view : σ → α}

namespace BatchCollector

theorem view_submit (kept : b.AppendsKeep view) (c : BatchCollector) (batch : EventBatch) (s : σ) :
    view (submit b c batch s).2 = view s := by
  have first := kept c.service c.trace batch s
  rw [submit]
  rcases sent : b.appendEvents c.service c.trace batch s with ⟨e | answer, s'⟩
  · rw [sent] at first
    dsimp only at first ⊢
    split
    · exact (kept c.service c.trace batch s').trans first
    · exact first
  · rw [sent] at first
    exact first

theorem view_flush (kept : b.AppendsKeep view) (c : BatchCollector) (s : σ) :
    view (flush b c s).2.2 = view s := by
  by_cases empty : c.buffer = []
  · simp [flush, empty]
  · have busy : c.buffer.isEmpty = false := by simpa using empty
    have sent := view_submit kept c c.batch s
    rw [flush, busy]
    rcases answer : submit b c c.batch s with ⟨e | _, s'⟩
    · rw [answer] at sent
      exact sent
    · rw [answer] at sent
      exact sent

theorem view_flushIfDue (kept : b.AppendsKeep view) (now : Instant) (c : BatchCollector) (s : σ) :
    view (flushIfDue b now c s).2.2 = view s := by
  rw [flushIfDue]
  cases c.phase with
  | poisoned => rfl
  | closed => rfl
  | open_ =>
    dsimp only
    split
    · exact view_flush kept c s
    · rfl

theorem view_process (kept : b.AppendsKeep view) (m : Moment) (e : Event) (c : BatchCollector)
    (s : σ) : view (process b m e c s).2.2 = view s := by
  cases phase : c.phase with
  | poisoned => rw [process, phase]
  | closed => rw [process, phase]
  | open_ =>
    rw [process_of_open phase]
    exact view_flushIfDue kept m.now (c.push m.now (e.identified m.fresh)) s

theorem view_close (kept : b.AppendsKeep view) (c : BatchCollector) (s : σ) :
    view (close b c s).2.2 = view s := by
  have flushed := view_flush kept c s
  rw [close]
  cases c.phase with
  | poisoned => rfl
  | closed => rfl
  | open_ =>
    dsimp only
    rcases done : flush b c s with ⟨fault | _, c', s'⟩
    · rw [done] at flushed
      exact flushed
    · rw [done] at flushed
      exact flushed

end BatchCollector

namespace Collector

theorem view_process (kept : b.AppendsKeep view) (m : Moment) (e : Event) (c : Collector) (s : σ) :
    view (c.process b m e s).2.2 = view s := by
  induction c with
  | memory events closed =>
    rw [process]
    split <;> rfl
  | batches c => exact c.view_process kept m e s
  | exclusion rules next ih =>
    rw [process]
    split
    · rfl
    · exact ih
  | trackers included next ih =>
    rw [process]
    split
    · rfl
    · exact ih
  | counting counts next ih =>
    rw [process]
    rcases done : next.process b m e s with ⟨fault | outcome, next', s'⟩
    · rw [done] at ih
      exact ih
    · rw [done] at ih
      exact ih

theorem view_flushIfDue (kept : b.AppendsKeep view) (now : Instant) (c : Collector) (s : σ) :
    view (c.flushIfDue b now s).2.2 = view s := by
  induction c with
  | memory events closed => rfl
  | batches c => exact c.view_flushIfDue kept now s
  | exclusion rules next ih => exact ih
  | trackers included next ih => exact ih
  | counting counts next ih => exact ih

theorem view_close (kept : b.AppendsKeep view) (c : Collector) (s : σ) :
    view (c.close b s).2.2 = view s := by
  induction c with
  | memory events closed => rfl
  | batches c => exact c.view_close kept s
  | exclusion rules next ih => exact ih
  | trackers included next ih => exact ih
  | counting counts next ih => exact ih

end Collector

end TrafficTrace
