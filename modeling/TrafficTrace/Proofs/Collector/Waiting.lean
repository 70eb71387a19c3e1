import TrafficTrace.Backend.Script
import TrafficTrace.Proofs.Collector.Ledger
import TrafficTrace.Proofs.Collector.Requests

/-!
# What waits in the buffer

Between requests the buffer of an open collector holds the end of what was taken, with the reading
of the clock when its first event came. It is less than a batch, and that event is not yet of age.
Every request keeps this, whatever the clock shows: a flush leaves nothing behind, and what is not
flushed is not due.
-/
namespace TrafficTrace.BatchCollector

open Backend

variable {σ : Type} {c : BatchCollector} {waiting : List (Moment × Event)}

/-- These events are in the buffer, and the first of them came at the time that is kept. -/
structure Waits (c : BatchCollector) (waiting : List (Moment × Event)) : Prop where
  buffer : c.buffer = identifiedEvents waiting
  oldest : c.oldest = waiting.head?.map fun q => q.1.now

theorem waits_start (service : ServiceId) (trace : TraceId) (client : Uuid)
    (policy : BatchPolicy) : Waits (start service trace client policy) [] :=
  ⟨rfl, rfl⟩

theorem Waits.oldest_eq_none_iff (h : Waits c waiting) : c.oldest = none ↔ c.buffer = [] := by
  rw [h.oldest, h.buffer]
  simp [identifiedEvents]

theorem Waits.push (h : Waits c waiting) (m : Moment) (e : Event) :
    Waits (c.push m.now (e.identified m.fresh)) (waiting ++ [(m, e)]) := by
  constructor
  · simp [BatchCollector.push, h.buffer, identifiedEvents]
  · cases waiting with
    | nil =>
      have empty : c.buffer = [] := h.buffer
      simp [BatchCollector.push, empty]
    | cons q rest =>
      have busy : c.buffer.isEmpty = false := by simp [h.buffer, identifiedEvents]
      simp [BatchCollector.push, busy, h.oldest]

/-- A flush leaves nothing waiting, whatever becomes of the batch. -/
theorem Waits.flush (h : Waits c waiting) (b : Backend σ) (s : σ) :
    Waits (flush b c s).2.1 [] := by
  rw [BatchCollector.flush]
  split
  · rename_i empty
    have empty : c.buffer = [] := by simpa using empty
    exact ⟨empty, h.oldest_eq_none_iff.mpr empty⟩
  · split
    · exact ⟨rfl, rfl⟩
    · exact ⟨rfl, rfl⟩

/-- What is not there is not due. -/
theorem Waits.isDue_eq_false (h : Waits c []) (capacity : 0 < c.policy.maxSize) (now : Instant) :
    c.isDue now = false := by
  have empty : c.buffer = [] := h.buffer
  have timeless : c.oldest = none := h.oldest
  simpa [isDue, empty, timeless] using Nat.ne_of_gt capacity

theorem policy_of_purpose {c' : BatchCollector} (same : c'.purpose = c.purpose) :
    c'.policy = c.policy :=
  congrArg (fun p => p.2.2) same

/-- Looking whether the buffer is due leaves all that waited, or nothing. An open collector has
nothing due afterwards. -/
theorem Waits.flushIfDue (h : Waits c waiting) (capacity : 0 < c.policy.maxSize) (b : Backend σ)
    (now : Instant) (s : σ) :
    ∃ rest, rest <:+ waiting ∧ Waits (flushIfDue b now c s).2.1 rest ∧
      ((flushIfDue b now c s).2.1.phase = .open_ →
        (flushIfDue b now c s).2.1.isDue now = false) := by
  rw [BatchCollector.flushIfDue]
  cases phase : c.phase with
  | poisoned => exact ⟨waiting, List.suffix_rfl, h, fun isOpen => by simp [phase] at isOpen⟩
  | closed => exact ⟨waiting, List.suffix_rfl, h, fun isOpen => by simp [phase] at isOpen⟩
  | open_ =>
    dsimp only
    by_cases due : c.isDue now = true
    · rw [if_pos due]
      have same := policy_of_purpose (purpose_flush b c s)
      refine ⟨[], List.nil_suffix, h.flush b s, fun _ => ?_⟩
      exact (h.flush b s).isDue_eq_false (same ▸ capacity) now
    · rw [if_neg due]
      exact ⟨waiting, List.suffix_rfl, h, fun _ => Bool.not_eq_true _ ▸ due⟩

/-- No collector is open after it was closed, and a flush that fails has poisoned it. -/
theorem Waits.close (h : Waits c waiting) (b : Backend σ) (s : σ) :
    ∃ rest, rest <:+ waiting ∧ Waits (close b c s).2.1 rest ∧
      (close b c s).2.1.phase ≠ .open_ := by
  have left := h.flush b s
  rw [BatchCollector.close]
  cases phase : c.phase with
  | poisoned => exact ⟨waiting, List.suffix_rfl, h, by simp [phase]⟩
  | closed => exact ⟨waiting, List.suffix_rfl, h, by simp [phase]⟩
  | open_ =>
    rcases flushed : BatchCollector.flush b c s with ⟨fault | _, c', s'⟩
    · have poisoned : c'.phase = .poisoned := by
        simpa [flushed] using phase_of_flush_error (congrArg Prod.fst flushed)
      rw [flushed] at left
      exact ⟨[], List.nil_suffix, left, by simp [poisoned]⟩
    · rw [flushed] at left
      exact ⟨[], List.nil_suffix, ⟨left.buffer, left.oldest⟩, by simp [closed]⟩

/-- What a request leaves waiting came last, and nothing of it is due if the collector is open. -/
theorem Waits.step (h : Waits c waiting) (capacity : 0 < c.policy.maxSize) (b : Backend σ)
    (m : Moment) (a : CollectorAction) (s : σ) :
    ∃ rest, rest <:+ waiting ++ c.handed m a ∧ Waits (c.step b m s a).1 rest ∧
      ((c.step b m s a).1.phase = .open_ → (c.step b m s a).1.isDue m.now = false) := by
  cases a with
  | process e =>
    by_cases isOpen : c.phase = .open_
    · rw [BatchCollector.step, process_of_open isOpen, handed, if_pos isOpen]
      exact (h.push m e).flushIfDue capacity b m.now s
    · have refused : (c.process b m e s).2.1 = c := by
        rw [process]
        cases phase : c.phase with
        | open_ => exact absurd phase isOpen
        | poisoned => rfl
        | closed => rfl
      rw [BatchCollector.step, refused, handed, if_neg isOpen, List.append_nil]
      exact ⟨waiting, List.suffix_rfl, h, fun now => absurd now isOpen⟩
  | flushIfDue =>
    rw [handed, List.append_nil]
    exact h.flushIfDue capacity b m.now s
  | close =>
    rw [handed, List.append_nil]
    obtain ⟨rest, last, waits, ended⟩ := h.close b s
    exact ⟨rest, last, waits, fun isOpen => absurd isOpen ended⟩

theorem policy_step (b : Backend σ) (m : Moment) (c : BatchCollector) (s : σ)
    (a : CollectorAction) : (c.step b m s a).1.policy = c.policy := by
  cases a with
  | process e => exact policy_of_purpose (purpose_process b m e c s)
  | flushIfDue => exact policy_of_purpose (purpose_flushIfDue b m.now c s)
  | close => exact policy_of_purpose (purpose_close b c s)

theorem policy_run (b : Backend σ) (c : BatchCollector) (s : σ)
    (requests : List (Moment × CollectorAction)) : (run b c s requests).1.policy = c.policy := by
  induction requests generalizing c s with
  | nil => rfl
  | cons q rest ih =>
    obtain ⟨m, a⟩ := q
    exact (ih _ _).trans (policy_step b m c s a)

theorem Waits.run (h : Waits c waiting) (capacity : 0 < c.policy.maxSize) (b : Backend σ)
    (requests : List (Moment × CollectorAction)) (s : σ) :
    ∃ rest, rest <:+ waiting ++ offered b c s requests ∧ Waits (run b c s requests).1 rest := by
  induction requests generalizing c waiting s with
  | nil => exact ⟨waiting, by simp [offered], h⟩
  | cons q others ih =>
    obtain ⟨m, a⟩ := q
    obtain ⟨left, last, waits, -⟩ := h.step capacity b m a s
    have room : 0 < (c.step b m s a).1.policy.maxSize := by
      rw [policy_step]
      exact capacity
    obtain ⟨rest, last', waits'⟩ := ih waits room (c.step b m s a).2
    refine ⟨rest, last'.trans ?_, waits'⟩
    rw [offered, ← List.append_assoc]
    obtain ⟨before, same⟩ := last
    exact ⟨before, by rw [← List.append_assoc, same]⟩

theorem run_concat (b : Backend σ) (c : BatchCollector) (s : σ)
    (requests : List (Moment × CollectorAction)) (m : Moment) (a : CollectorAction) :
    run b c s (requests ++ [(m, a)]) =
      (run b c s requests).1.step b m (run b c s requests).2 a := by
  induction requests generalizing c s with
  | nil => rfl
  | cons q rest ih =>
    obtain ⟨m', a'⟩ := q
    exact ih _ _

/-- An event that is not due has not waited for its age. -/
theorem within_of_isDue_eq_false {now : Instant} (early : c.isDue now = false) :
    ∀ t ∈ c.oldest, Instant.within now t c.policy.maxAge = true := by
  intro t kept
  have kept : c.oldest = some t := kept
  simp only [isDue, kept, Bool.or_eq_false_iff, Instant.elapsed, decide_eq_false_iff_not] at early
  simpa [Instant.within] using early.2

/-- While a collector is open, what does not wait has been accepted. -/
theorem Accounts.acceptedEvents_eq {calls : List CallRecord} {sent : List (Moment × Event)}
    (h : Accounts c calls (identifiedEvents (sent ++ waiting))) (isOpen : c.phase = .open_)
    (waits : Waits c waiting) : acceptedEvents calls = identifiedEvents sent := by
  have conserved := h.conserved
  rw [lostEvents, h.lostBatch?_eq_none isOpen, waits.buffer, identifiedEvents, identifiedEvents,
    List.map_append] at conserved
  simpa [identifiedEvents] using List.append_cancel_right conserved

/-- A request that leaves the collector open leaves less than a batch in the buffer. These events
were the last to be taken and all before them have been accepted; the time that is kept is the one
at which the first of them was taken, and there is none if there is no event. That event is not yet
of age. No batch was ever larger than the policy says. -/
theorem open_holds_young_rest (b : Backend σ) (service : ServiceId) (trace : TraceId)
    (client : Uuid) (policy : BatchPolicy) (s : σ) (before : List (Moment × CollectorAction))
    (m : Moment) (a : CollectorAction) :
    let first := start service trace client policy
    let requests := before ++ [(m, a)]
    let last := run b.stamped first (.start s) requests
    (last.1.phase = .open_ →
      last.1.buffer.length < max 1 policy.maxSize ∧
      (last.1.oldest = none ↔ last.1.buffer = []) ∧
      (∃ sent waiting, offered b.stamped first (.start s) requests = sent ++ waiting ∧
        acceptedEvents last.2.calls = identifiedEvents sent ∧
        last.1.buffer = identifiedEvents waiting ∧
        last.1.oldest = waiting.head?.map fun q => q.1.now) ∧
      ∀ t ∈ last.1.oldest, Instant.within m.now t policy.maxAge = true) ∧
    ∀ x ∈ submittedBatches last.2.calls, x.events.length ≤ max 1 policy.maxSize := by
  intro first requests last
  have capacity : 0 < first.policy.maxSize := capacity_normal policy
  have governed : last.1.policy = policy.normal := policy_run _ _ _ _
  have age : last.1.policy.maxAge = policy.maxAge := by rw [governed, BatchPolicy.normal]
  have size : last.1.policy.maxSize = max 1 policy.maxSize := by
    rw [governed]
    exact Nat.max_comm _ _
  obtain ⟨calls, log, ledger⟩ :=
    (ledger_start service trace client policy).run b requests (.start s)
  have logged : last.2.calls = calls := log
  rw [List.nil_append, List.nil_append, ← logged] at ledger
  refine ⟨fun isOpen => ?_, fun x hx => size ▸ (ledger.sizes x hx).2⟩
  -- what waits is found from the start on, and what the last request leaves from the run before it
  obtain ⟨waiting, ⟨sent, all⟩, waits⟩ :=
    (waits_start service trace client policy).run capacity b.stamped requests (.start s)
  obtain ⟨_, -, earlier⟩ :=
    (waits_start service trace client policy).run capacity b.stamped before (.start s)
  have room : 0 < (run b.stamped first (.start s) before).1.policy.maxSize := by
    rw [policy_run]
    exact capacity
  obtain ⟨-, -, -, idle⟩ := earlier.step room b.stamped m a _
  rw [← run_concat] at idle
  have young := within_of_isDue_eq_false (c := last.1) (idle isOpen)
  rw [age] at young
  rw [List.nil_append] at all
  rw [← all] at ledger
  exact ⟨size ▸ ledger.room, waits.oldest_eq_none_iff,
    ⟨sent, waiting, all.symm, ledger.acceptedEvents_eq isOpen waits, waits.buffer, waits.oldest⟩,
    young⟩

/-- The second event fills a batch, which goes out, and the third begins the next one. -/
example :
    let s : Script := ⟨.ok [], .ok [], [], [], 0, fun _ => .nil⟩
    let event := CollectorAction.process (.request "GET" "shop.example" "/" .epoch)
    let last := run scripted (start .nil .nil .nil ⟨2, .ofSecs 5⟩) s
      [(⟨10, .nil⟩, event), (⟨20, .nil⟩, event), (⟨30, .nil⟩, event), (⟨40, .nil⟩, .flushIfDue)]
    last.1.buffer.length = 1 ∧ last.1.oldest = some 30 ∧ last.1.batches = 1 := by
  decide +kernel

end TrafficTrace.BatchCollector
