import TrafficTrace.Collector.Chain
import TrafficTrace.Proofs.Backend.CallLog

/-!
# The ledger of a batch collector

The events of the accepted batches, then those of the lost one, then the buffer: together these are
the events that were taken, in their order. A ledger states this with the counters, against the log
of the calls that the collector made. Every request keeps it, whatever the backend answers and
whatever the clock shows.
-/
namespace TrafficTrace

/-- What becomes of an event on its way: it stays as it is, or it gets the identifier it lacks. -/
inductive Event.SentAs : Event → Event → Prop where
  | unchanged (e : Event) (named : e.requestId ≠ none) : SentAs e e
  | named (e : Event) (id : String) (nameless : e.requestId = none) : SentAs e (e.withRequestId id)

theorem Event.sentAs_identified (e : Event) (fresh : Uuid) : e.SentAs (e.identified fresh) := by
  rw [Event.identified]
  split
  · rename_i id h
    exact .unchanged e (by simp [h])
  · rename_i h
    exact .named e _ h

namespace BatchCollector

open Backend

variable {σ : Type}

def step (b : Backend σ) (m : Moment) (c : BatchCollector) (s : σ) :
    CollectorAction → BatchCollector × σ
  | .process e => (c.process b m e s).2
  | .flushIfDue => (c.flushIfDue b m.now s).2
  | .close => (c.close b s).2

def run (b : Backend σ) (c : BatchCollector) (s : σ) :
    List (Moment × CollectorAction) → BatchCollector × σ
  | [] => (c, s)
  | (m, a) :: rest => run b (c.step b m s a).1 (c.step b m s a).2 rest

/-- The answer to a request; an event yields its disposition. -/
def reply (b : Backend σ) (m : Moment) (c : BatchCollector) (s : σ) :
    CollectorAction → Except CollectorError (Option Disposition)
  | .process e => (c.process b m e s).1.map some
  | .flushIfDue => (c.flushIfDue b m.now s).1.map fun _ => none
  | .close => (c.close b s).1.map fun _ => none

/-- The answers to requests in their order. -/
def replies (b : Backend σ) (c : BatchCollector) (s : σ) :
    List (Moment × CollectorAction) → List (Except CollectorError (Option Disposition))
  | [] => []
  | (m, a) :: rest => c.reply b m s a :: replies b (c.step b m s a).1 (c.step b m s a).2 rest

/-- What a request hands over, if the collector is open for it. -/
def handed (c : BatchCollector) (m : Moment) : CollectorAction → List (Moment × Event)
  | .process e => if c.phase = .open_ then [(m, e)] else []
  | .flushIfDue | .close => []

/-- The events that were handed over while the collector was open, each with its moment. -/
def offered (b : Backend σ) (c : BatchCollector) (s : σ) :
    List (Moment × CollectorAction) → List (Moment × Event)
  | [] => []
  | (m, a) :: rest =>
    c.handed m a ++ offered b (c.step b m s a).1 (c.step b m s a).2 rest

/-- Offered events as they are sent. -/
def identifiedEvents (l : List (Moment × Event)) : List Event :=
  l.map fun q => q.2.identified q.1.fresh

theorem sentAs_identifiedEvents (l : List (Moment × Event)) :
    List.Forall₂ Event.SentAs (l.map Prod.snd) (identifiedEvents l) := by
  induction l with
  | nil => exact .nil
  | cons q rest ih => exact .cons (q.2.sentAs_identified q.1.fresh) ih

theorem collector_step (b : Backend σ) (m : Moment) (c : BatchCollector) (s : σ)
    (a : CollectorAction) : Collector.step b m (.batches c) s a =
      (c.reply b m s a, .batches (c.step b m s a).1, (c.step b m s a).2) := by
  cases a <;> rfl

/-- A chain that consists of the collector alone does the same. -/
theorem run_batches (b : Backend σ) (c : BatchCollector) (s : σ)
    (requests : List (Moment × CollectorAction)) :
    Collector.run b (.batches c) s requests = (.batches (c.run b s requests).1,
      (c.run b s requests).2) := by
  induction requests generalizing c s with
  | nil => rfl
  | cons q rest ih =>
    obtain ⟨m, a⟩ := q
    cases a <;> exact ih _ _

/-- The accounts of a collector: `calls` is the log of its calls and `taken` what it took. -/
structure Accounts (c : BatchCollector) (calls : List CallRecord) (taken : List Event) :
    Prop where
  conserved : acceptedEvents calls ++ lostEvents calls ++ c.buffer = taken
  submitted : c.submitted = (acceptedEvents calls).length
  batches : c.batches = (acceptedBatches calls).length
  sizes : ∀ x ∈ submittedBatches calls, 0 < x.events.length ∧ x.events.length ≤ c.policy.maxSize
  targets : ∀ r ∈ calls, ∃ x, r.call = .appendEvents c.service c.trace x
  retried : calls.IsChain Retried
  lost_iff : (lostBatch? calls).isSome ↔ c.phase = .poisoned
  idle : c.phase ≠ .open_ → c.buffer = []
  capacity : 0 < c.policy.maxSize

/-- Between requests the buffer holds less than a batch. -/
structure Ledger (c : BatchCollector) (calls : List CallRecord) (taken : List Event) : Prop
    extends Accounts c calls taken where
  room : c.buffer.length < c.policy.maxSize

theorem capacity_normal (policy : BatchPolicy) : 0 < policy.normal.maxSize :=
  Nat.lt_of_lt_of_le Nat.zero_lt_one (Nat.le_max_right _ _)

theorem ledger_start (service : ServiceId) (trace : TraceId) (client : Uuid)
    (policy : BatchPolicy) : Ledger (start service trace client policy) [] [] where
  conserved := rfl
  submitted := rfl
  batches := rfl
  sizes := by simp [submittedBatches]
  targets := by simp
  retried := .nil
  lost_iff := by simp [lostBatch?, start]
  idle := fun _ => rfl
  capacity := capacity_normal policy
  room := capacity_normal policy

theorem submit_attempts (b : Backend σ) (c : BatchCollector) (batch : EventBatch)
    (w : Stamped σ) :
    ∃ sent, (submit b.stamped c batch w).2.calls = w.calls ++ sent ∧
      Attempts (.appendEvents c.service c.trace batch)
        (Stamped.faultOf (submit b.stamped c batch w).1) sent := by
  rw [submit]
  rw [stamped_appendEvents]
  cases first : (b.appendEvents c.service c.trace batch w.state).1 with
  | ok response => exact ⟨_, rfl, .once _ (by simp [Stamped.faultOf])⟩
  | error e =>
    dsimp only
    split
    · rename_i passing
      rw [stamped_appendEvents]
      exact ⟨_, List.append_assoc _ _ _, .again _ _ _ passing⟩
    · rename_i lasting
      exact ⟨_, rfl, .once _ (by simpa [Stamped.faultOf] using lasting)⟩

/-- All that flushing can do: nothing, or one submission with either outcome. -/
theorem flush_cases (b : Backend σ) (c : BatchCollector) (w : Stamped σ) :
    (c.buffer = [] ∧ flush b.stamped c w = (.ok (), c, w)) ∨
    (c.buffer ≠ [] ∧ ∃ sent w', w'.calls = w.calls ++ sent ∧
      ((Attempts (.appendEvents c.service c.trace c.batch) none sent ∧
          flush b.stamped c w = (.ok (), c.emptied.accepted c.buffer.length, w')) ∨
        ∃ e, Attempts (.appendEvents c.service c.trace c.batch) (some e) sent ∧
          flush b.stamped c w =
            (.error (.submit c.trace c.buffer.length e), c.emptied.poison, w'))) := by
  by_cases empty : c.buffer = []
  · exact .inl ⟨empty, by simp [flush, empty]⟩
  · obtain ⟨sent, log, attempts⟩ := submit_attempts b c c.batch w
    refine .inr ⟨empty, sent, _, log, ?_⟩
    have busy : c.buffer.isEmpty = false := by simpa using empty
    cases answer : submit b.stamped c c.batch w with
    | mk result w' =>
      simp only [answer] at attempts
      cases result with
      | ok response => exact .inl ⟨attempts, by simp [flush, busy, answer]⟩
      | error e => exact .inr ⟨e, attempts, by simp [flush, busy, answer]⟩

variable {c : BatchCollector} {calls : List CallRecord} {taken : List Event}

/-- While the collector is open no call has failed for good. -/
theorem Accounts.lostBatch?_eq_none (h : Accounts c calls taken) (isOpen : c.phase = .open_) :
    lostBatch? calls = none := by
  rw [← Option.not_isSome_iff_eq_none, h.lost_iff, isOpen]
  simp

/-- What a submission adds to the log keeps to the size of a batch and to the target. -/
theorem Accounts.submission (h : Accounts c calls taken) (isOpen : c.phase = .open_)
    (filled : c.buffer ≠ []) (fits : c.buffer.length ≤ c.policy.maxSize)
    {fault : Option TransportError} {sent : List CallRecord}
    (attempts : Attempts (.appendEvents c.service c.trace c.batch) fault sent) :
    (∀ x ∈ submittedBatches (calls ++ sent),
      0 < x.events.length ∧ x.events.length ≤ c.policy.maxSize) ∧
    (∀ r ∈ calls ++ sent, ∃ x, r.call = .appendEvents c.service c.trace x) ∧
    (calls ++ sent).IsChain Retried := by
  refine ⟨?_, ?_, ?_⟩
  · intro x hx
    rw [submittedBatches_append] at hx
    rcases List.mem_append.mp hx with hx | hx
    · exact h.sizes x hx
    · obtain rfl := attempts.eq_of_mem_submittedBatches x hx
      exact ⟨List.length_pos_iff.mpr filled, fits⟩
  · intro r hr
    rcases List.mem_append.mp hr with hr | hr
    · exact h.targets r hr
    · exact ⟨c.batch, attempts.call_eq r hr⟩
  · refine h.retried.append attempts.isChain ?_
    intro r hr next _ e failed
    -- a failure at the end of the log would have been the end of the collector
    have lost := h.lostBatch?_eq_none isOpen
    obtain ⟨x, target⟩ := h.targets r (List.mem_of_getLast? hr)
    simp [lostBatch?, Option.mem_def.mp hr, failed, CallRecord.batch?, target] at lost

/-- The events of one submission are the buffer, on whichever side of the accounts they end. Only
the phase and the counters depend on the outcome. -/
theorem Accounts.settle (h : Accounts c calls taken) (isOpen : c.phase = .open_)
    (filled : c.buffer ≠ []) (fits : c.buffer.length ≤ c.policy.maxSize)
    {fault : Option TransportError} {sent : List CallRecord}
    (attempts : Attempts (.appendEvents c.service c.trace c.batch) fault sent)
    {c' : BatchCollector}
    (frame : c'.service = c.service ∧ c'.trace = c.trace ∧ c'.policy = c.policy)
    (emptied : c'.buffer = [])
    (counted : c'.submitted = c.submitted + (acceptedEvents sent).length ∧
      c'.batches = c.batches + (acceptedBatches sent).length)
    (ended : c'.phase = .poisoned ↔ fault.isSome) : Ledger c' (calls ++ sent) taken := by
  obtain ⟨service, trace, policy⟩ := frame
  obtain ⟨sizes, targets, retried⟩ := h.submission isOpen filled fits attempts
  have before : acceptedEvents calls ++ c.buffer = taken := by
    have := h.conserved
    simpa [lostEvents, h.lostBatch?_eq_none isOpen] using this
  have moved : acceptedEvents sent ++ lostEvents sent = c.buffer := attempts.events_eq
  have after : lostBatch? (calls ++ sent) = lostBatch? sent := lostBatch?_append attempts.ne_nil
  exact {
    conserved := by
      rw [lostEvents_append attempts.ne_nil, emptied, List.append_nil, acceptedEvents_append,
        List.append_assoc, moved, before]
    submitted := by
      rw [counted.1, h.submitted, acceptedEvents_append, List.length_append]
    batches := by
      rw [counted.2, h.batches, acceptedBatches_append, List.length_append]
    sizes := by rw [policy]; exact sizes
    targets := by rw [service, trace]; exact targets
    retried := retried
    lost_iff := by rw [after, attempts.lostBatch?_isSome, ended]
    idle := fun _ => emptied
    capacity := by rw [policy]; exact h.capacity
    room := by rw [emptied, policy]; exact h.capacity }

theorem Accounts.flush (h : Accounts c calls taken) (isOpen : c.phase = .open_)
    (fits : c.buffer.length ≤ c.policy.maxSize) (b : Backend σ) (w : Stamped σ) :
    ∃ sent, (flush b.stamped c w).2.2.calls = w.calls ++ sent ∧
      Ledger (flush b.stamped c w).2.1 (calls ++ sent) taken := by
  rcases flush_cases b c w with ⟨empty, same⟩ | ⟨filled, sent, w', log, outcome⟩
  · rw [same]
    refine ⟨[], (List.append_nil _).symm, ?_⟩
    rw [List.append_nil]
    exact { h with room := by rw [empty]; exact h.capacity }
  · rcases outcome with ⟨attempts, done⟩ | ⟨e, attempts, done⟩
    · rw [done]
      refine ⟨sent, log, h.settle isOpen filled fits attempts ⟨rfl, rfl, rfl⟩ rfl ?_ ?_⟩
      · have accepted : acceptedBatches sent = [c.batch] := by
          simpa using attempts.acceptedBatches_eq
        simp [acceptedEvents, accepted, batch, BatchCollector.accepted, emptied]
      · simp [BatchCollector.accepted, emptied, isOpen]
    · rw [done]
      refine ⟨sent, log, h.settle isOpen filled fits attempts ⟨rfl, rfl, rfl⟩ rfl ?_ ?_⟩
      · have accepted : acceptedBatches sent = [] := by
          simpa using attempts.acceptedBatches_eq
        simp [acceptedEvents, accepted, poison, emptied]
      · simp [poison, emptied]

theorem Ledger.push (h : Ledger c calls taken) (isOpen : c.phase = .open_) (now : Instant)
    (e : Event) : Accounts (c.push now e) calls (taken ++ [e]) ∧
      (c.push now e).buffer.length ≤ c.policy.maxSize := by
  have room := h.room
  refine ⟨?_, by simpa [BatchCollector.push] using Nat.succ_le_of_lt room⟩
  exact {
    conserved := by simp [BatchCollector.push, ← h.conserved]
    submitted := h.submitted
    batches := h.batches
    sizes := h.sizes
    targets := h.targets
    retried := h.retried
    lost_iff := h.lost_iff
    idle := fun stopped => absurd isOpen stopped
    capacity := h.capacity }

theorem lt_of_not_isDue {now : Instant} (h : ¬ c.isDue now = true) :
    c.buffer.length < c.policy.maxSize := by
  simp only [isDue, Bool.or_eq_true, decide_eq_true_eq, not_or] at h
  exact Nat.lt_of_not_le h.1

theorem Ledger.process (h : Ledger c calls taken) (b : Backend σ) (m : Moment) (e : Event)
    (w : Stamped σ) :
    ∃ sent, (process b.stamped m e c w).2.2.calls = w.calls ++ sent ∧
      Ledger (process b.stamped m e c w).2.1 (calls ++ sent)
        (taken ++ if c.phase = .open_ then [e.identified m.fresh] else []) := by
  have untouched : ∃ sent, w.calls = w.calls ++ sent ∧ Ledger c (calls ++ sent) (taken ++ []) :=
    ⟨[], (List.append_nil _).symm, by simpa using h⟩
  rw [BatchCollector.process]
  cases phase : c.phase with
  | poisoned => simpa using untouched
  | closed => simpa using untouched
  | open_ =>
    obtain ⟨accounts, fits⟩ := h.push phase m.now (e.identified m.fresh)
    simp only [if_true]
    split
    · exact accounts.flush phase fits b w
    · rename_i early
      refine ⟨[], (List.append_nil _).symm, ?_⟩
      rw [List.append_nil]
      exact { accounts with room := lt_of_not_isDue early }

theorem Ledger.flushIfDue (h : Ledger c calls taken) (b : Backend σ) (now : Instant)
    (w : Stamped σ) :
    ∃ sent, (flushIfDue b.stamped now c w).2.2.calls = w.calls ++ sent ∧
      Ledger (flushIfDue b.stamped now c w).2.1 (calls ++ sent) taken := by
  have untouched : ∃ sent, w.calls = w.calls ++ sent ∧ Ledger c (calls ++ sent) taken :=
    ⟨[], (List.append_nil _).symm, by simpa using h⟩
  rw [BatchCollector.flushIfDue]
  cases phase : c.phase with
  | poisoned => exact untouched
  | closed => exact untouched
  | open_ =>
    simp only
    split
    · exact h.toAccounts.flush phase (Nat.le_of_lt h.room) b w
    · exact untouched

/-- Closing only marks a collector whose buffer went out. -/
theorem Ledger.closed (h : Ledger c calls taken) (isOpen : c.phase = .open_)
    (empty : c.buffer = []) : Ledger c.closed calls taken :=
  { h with
    lost_iff := by simp [h.lostBatch?_eq_none isOpen, BatchCollector.closed]
    idle := fun _ => empty }

theorem Ledger.close (h : Ledger c calls taken) (b : Backend σ) (w : Stamped σ) :
    ∃ sent, (close b.stamped c w).2.2.calls = w.calls ++ sent ∧
      Ledger (close b.stamped c w).2.1 (calls ++ sent) taken := by
  have untouched : ∃ sent, w.calls = w.calls ++ sent ∧ Ledger c (calls ++ sent) taken :=
    ⟨[], (List.append_nil _).symm, by simpa using h⟩
  rw [BatchCollector.close]
  cases phase : c.phase with
  | poisoned => exact untouched
  | closed => exact untouched
  | open_ =>
    obtain ⟨sent, log, ledger⟩ := h.toAccounts.flush phase (Nat.le_of_lt h.room) b w
    rcases flush_cases b c w with ⟨empty, done⟩ | ⟨_, _, _, _, ⟨_, done⟩ | ⟨e, _, done⟩⟩
    · simp only [done] at log ledger ⊢
      exact ⟨sent, log, ledger.closed phase empty⟩
    · simp only [done] at log ledger ⊢
      exact ⟨sent, log, ledger.closed phase rfl⟩
    · simp only [done] at log ledger ⊢
      exact ⟨sent, log, ledger⟩

theorem Ledger.step (h : Ledger c calls taken) (b : Backend σ) (m : Moment)
    (a : CollectorAction) (w : Stamped σ) :
    ∃ sent, (step b.stamped m c w a).2.calls = w.calls ++ sent ∧
      Ledger (step b.stamped m c w a).1 (calls ++ sent)
        (taken ++ identifiedEvents (c.handed m a)) := by
  cases a with
  | process e =>
    have same : identifiedEvents (c.handed m (.process e)) =
        if c.phase = .open_ then [e.identified m.fresh] else [] := by
      simp only [handed]
      split <;> rfl
    rw [same]
    exact h.process b m e w
  | flushIfDue =>
    rw [handed, identifiedEvents, List.map_nil, List.append_nil]
    exact h.flushIfDue b m.now w
  | close =>
    rw [handed, identifiedEvents, List.map_nil, List.append_nil]
    exact h.close b w

theorem Ledger.run (h : Ledger c calls taken) (b : Backend σ)
    (requests : List (Moment × CollectorAction)) (w : Stamped σ) :
    ∃ sent, (run b.stamped c w requests).2.calls = w.calls ++ sent ∧
      Ledger (run b.stamped c w requests).1 (calls ++ sent)
        (taken ++ identifiedEvents (offered b.stamped c w requests)) := by
  induction requests generalizing c calls taken w with
  | nil =>
    refine ⟨[], (List.append_nil _).symm, ?_⟩
    rw [offered, identifiedEvents, List.map_nil, List.append_nil, List.append_nil]
    exact h
  | cons q rest ih =>
    obtain ⟨m, a⟩ := q
    obtain ⟨first, log, ledger⟩ := h.step b m a w
    obtain ⟨others, log', ledger'⟩ := ih ledger (BatchCollector.step b.stamped m c w a).2
    refine ⟨first ++ others, ?_, ?_⟩
    · rw [← List.append_assoc, ← log]
      exact log'
    · rw [← List.append_assoc, offered, identifiedEvents, List.map_append, ← List.append_assoc]
      exact ledger'

/-- No event is lost without trace, sent twice or moved: the events that were handed over while the
collector was open are, in their order, those of the accepted batches, of the batch that failed for
good, and of the buffer. -/
theorem run_conserves_events (b : Backend σ) (service : ServiceId) (trace : TraceId)
    (client : Uuid) (policy : BatchPolicy) (s : σ) (requests : List (Moment × CollectorAction)) :
    let first := start service trace client policy
    let last := run b.stamped first (.start s) requests
    Collector.run b.stamped (.batches first) (.start s) requests = (.batches last.1, last.2) ∧
    List.Forall₂ Event.SentAs ((offered b.stamped first (.start s) requests).map Prod.snd)
      (acceptedEvents last.2.calls ++ lostEvents last.2.calls ++ last.1.buffer) ∧
    ((lostBatch? last.2.calls).isSome ↔ last.1.phase = .poisoned) ∧
    last.2.calls.IsChain Retried ∧
    last.1.submitted = ((acceptedBatches last.2.calls).map fun x => x.events.length).sum ∧
    last.1.batches = (acceptedBatches last.2.calls).length ∧
    ∀ x ∈ submittedBatches last.2.calls, x.events ≠ [] := by
  intro first last
  obtain ⟨sent, log, ledger⟩ :=
    (ledger_start service trace client policy).run b requests (.start s)
  have calls : last.2.calls = sent := log
  rw [List.nil_append, ← calls] at ledger
  refine ⟨run_batches _ _ _ _, ?_, ledger.lost_iff, ledger.retried, ?_, ledger.batches, ?_⟩
  · rw [ledger.conserved]
    exact sentAs_identifiedEvents _
  · rw [← length_acceptedEvents]
    exact ledger.submitted
  · intro x hx
    exact List.length_pos_iff.mp (ledger.sizes x hx).1

end BatchCollector

end TrafficTrace
