import TrafficTrace.Backend.Script
import TrafficTrace.Proofs.Collector.Conjunction
import TrafficTrace.Proofs.Collector.Ledger
import TrafficTrace.Proofs.Collector.Requests

/-!
# How a batch collector ends

A batch is submitted in one append call, or in two if the first one fails in passing. If the last
one fails, the request that submitted the batch fails with it and poisons the collector. No request
moves a poisoned collector or a closed one, so that neither calls the backend again.
-/
namespace TrafficTrace.BatchCollector

open Backend

variable {σ : Type}

/-- What a request yields that does not fail. -/
def yield : CollectorAction → Option Disposition
  | .process _ => some .forwarded
  | .flushIfDue | .close => none

/-- What a closed collector answers. -/
def closedReply : CollectorAction → Except CollectorError (Option Disposition)
  | .process _ => .error .closed
  | .flushIfDue | .close => .ok none

/-- An open collector with the event of a request in its buffer. -/
def taking (c : BatchCollector) (m : Moment) : CollectorAction → BatchCollector
  | .process e => c.push m.now (e.identified m.fresh)
  | .flushIfDue | .close => c

@[simp] theorem taking_process (c : BatchCollector) (m : Moment) (e : Event) :
    c.taking m (.process e) = c.push m.now (e.identified m.fresh) := rfl

@[simp] theorem taking_flushIfDue (c : BatchCollector) (m : Moment) :
    c.taking m .flushIfDue = c := rfl

@[simp] theorem taking_close (c : BatchCollector) (m : Moment) : c.taking m .close = c := rfl

/-- The collector is open, has something to submit, and it is time or the end. -/
def Submits (c : BatchCollector) (m : Moment) (a : CollectorAction) : Prop :=
  c.phase = .open_ ∧ (c.taking m a).buffer ≠ [] ∧
    (a = .close ∨ (c.taking m a).isDue m.now = true)

def firstFault? (sent : List CallRecord) : Option TransportError :=
  sent.head?.bind CallRecord.fault

def lastFault? (sent : List CallRecord) : Option TransportError :=
  sent.getLast?.bind CallRecord.fault

/-- The calls of one submission of the buffer: a second one if the first fails in passing. -/
structure Submission (c : BatchCollector) (sent : List CallRecord) : Prop where
  same : ∀ r ∈ sent, r.call =
    .appendEvents c.service c.trace ⟨batchId c.trace c.buffer, c.client, c.buffer⟩
  count : sent.length = if (firstFault? sent).any TransportError.isRetryable then 2 else 1

/-- The answer to a request of an open collector, after the calls it made. -/
def outcome (c : BatchCollector) (m : Moment) (a : CollectorAction) (sent : List CallRecord) :
    Except CollectorError (Option Disposition) :=
  match lastFault? sent with
  | none => .ok (yield a)
  | some e => .error (.submit c.trace (c.taking m a).buffer.length e)

theorem submission_of_attempts {c : BatchCollector} {fault : Option TransportError}
    {sent : List CallRecord}
    (h : Attempts (.appendEvents c.service c.trace c.batch) fault sent) :
    Submission c sent ∧ lastFault? sent = fault := by
  refine ⟨⟨h.call_eq, ?_⟩, ?_⟩
  · cases h with
    | once time lasting => cases fault <;> simp_all [firstFault?]
    | again first second e passing => simp [firstFault?, passing]
  · cases h <;> rfl

/-! ### An open collector -/

/-- A request that does not flush an open collector yields what it yields and calls nothing. -/
theorem request_idle {c : BatchCollector} {m : Moment} {a : CollectorAction}
    (isOpen : c.phase = .open_) (early : ¬ (a = .close ∨ (c.taking m a).isDue m.now = true))
    (b : Backend σ) (s : σ) : c.reply b m s a = .ok (yield a) ∧ (c.step b m s a).2 = s := by
  rw [not_or] at early
  obtain ⟨further, early⟩ := early
  cases a with
  | process e =>
    rw [taking_process] at early
    simp [reply, step, process, isOpen, early, yield, Except.map]
  | flushIfDue =>
    rw [taking_flushIfDue] at early
    simp [reply, step, flushIfDue, isOpen, early, yield, Except.map]
  | close => exact absurd rfl further

/-- Any other request is a flush; closing marks a collector whose flush succeeds. -/
theorem request_flush {c : BatchCollector} {m : Moment} {a : CollectorAction}
    (isOpen : c.phase = .open_) (due : a = .close ∨ (c.taking m a).isDue m.now = true)
    (b : Backend σ) (s : σ) :
    c.reply b m s a = (flush b (c.taking m a) s).1.map (fun _ => yield a) ∧
    (c.step b m s a).2 = (flush b (c.taking m a) s).2.2 ∧
    (∀ e, (flush b (c.taking m a) s).1 = .error e →
      (c.step b m s a).1 = (flush b (c.taking m a) s).2.1) := by
  cases a with
  | process e =>
    have due : (c.push m.now (e.identified m.fresh)).isDue m.now = true := by simpa using due
    rcases flushed : flush b (c.push m.now (e.identified m.fresh)) s with ⟨fault | _, c', s'⟩ <;>
      simp [reply, step, process, isOpen, due, yield, flushed, Except.map]
  | flushIfDue =>
    have due : c.isDue m.now = true := by simpa using due
    simp [reply, step, flushIfDue, isOpen, due, yield]
  | close =>
    simp only [reply, step, close, isOpen, taking_close]
    rcases flush b c s with ⟨e | _, c', s'⟩
    · simp [Except.map]
    · simp [Except.map, yield]

theorem trace_taking (c : BatchCollector) (m : Moment) (a : CollectorAction) :
    (c.taking m a).trace = c.trace := by
  cases a <;> rfl

/-- All that a request can do to an open collector. -/
theorem request_of_open {c : BatchCollector} (isOpen : c.phase = .open_) (b : Backend σ)
    (m : Moment) (a : CollectorAction) (w : Stamped σ) :
    ∃ sent, (c.step b.stamped m w a).2.calls = w.calls ++ sent ∧
      (c.Submits m a → Submission (c.taking m a) sent) ∧
      (¬ c.Submits m a → sent = []) ∧
      c.reply b.stamped m w a = c.outcome m a sent ∧
      ((lastFault? sent).isSome → (c.step b.stamped m w a).1.phase = .poisoned) := by
  by_cases due : a = .close ∨ (c.taking m a).isDue m.now = true
  · obtain ⟨answered, state, failed⟩ := request_flush isOpen due b.stamped w
    rcases flush_cases b (c.taking m a) w with
      ⟨empty, done⟩ | ⟨filled, sent, w', log, ⟨attempts, done⟩ | ⟨e, attempts, done⟩⟩
    · refine ⟨[], ?_, fun h => absurd empty h.2.1, fun _ => rfl, ?_, nofun⟩
      · rw [state, done, List.append_nil]
      · rw [answered, done]
        rfl
    · obtain ⟨submission, last⟩ := submission_of_attempts attempts
      refine ⟨sent, ?_, fun _ => submission, fun h => absurd ⟨isOpen, filled, due⟩ h, ?_, ?_⟩
      · rw [state, done, log]
      · rw [answered, done, outcome, last]
        rfl
      · rw [last]
        exact nofun
    · obtain ⟨submission, last⟩ := submission_of_attempts attempts
      refine ⟨sent, ?_, fun _ => submission, fun h => absurd ⟨isOpen, filled, due⟩ h, ?_, ?_⟩
      · rw [state, done, log]
      · rw [answered, done, outcome, last, trace_taking]
        rfl
      · intro _
        rw [failed _ (congrArg Prod.fst done), done]
        rfl
  · obtain ⟨answered, state⟩ := request_idle isOpen due b.stamped w
    refine ⟨[], ?_, fun h => absurd h.2.2 due, fun _ => rfl, answered, nofun⟩
    rw [state, List.append_nil]

/-! ### A collector that has ended -/

theorem request_of_poisoned {c : BatchCollector} (poisoned : c.phase = .poisoned) (b : Backend σ)
    (m : Moment) (s : σ) (a : CollectorAction) :
    c.step b m s a = (c, s) ∧ c.reply b m s a = .error .poisoned := by
  cases a <;> simp [reply, step, process, flushIfDue, close, poisoned, Except.map]

theorem request_of_closed {c : BatchCollector} (closed : c.phase = .closed) (b : Backend σ)
    (m : Moment) (s : σ) (a : CollectorAction) :
    c.step b m s a = (c, s) ∧ c.reply b m s a = closedReply a := by
  cases a <;> simp [reply, step, process, flushIfDue, BatchCollector.close, closed, Except.map,
    closedReply]

/-- A collector that no request moves stays as it is in every run. -/
theorem run_of_fixed {b : Backend σ} {c : BatchCollector} {s : σ}
    {answer : CollectorAction → Except CollectorError (Option Disposition)}
    (fixed : ∀ m a, c.step b m s a = (c, s) ∧ c.reply b m s a = answer a)
    (requests : List (Moment × CollectorAction)) :
    c.run b s requests = (c, s) ∧
      Collector.answers b (.batches c) s requests = requests.map fun q => answer q.2 := by
  induction requests with
  | nil => exact ⟨rfl, rfl⟩
  | cons q rest ih =>
    obtain ⟨m, a⟩ := q
    obtain ⟨still, answered⟩ := fixed m a
    rw [run, Collector.answers, collector_step, List.map_cons, still, answered]
    exact ⟨ih.1, congrArg _ ih.2⟩

theorem poisoned_of_reply {c : BatchCollector} {b : Backend σ} {m : Moment} {a : CollectorAction}
    {w : Stamped σ} {trace : TraceId} {events : Nat} {e : TransportError}
    (failed : c.reply b.stamped m w a = .error (.submit trace events e)) :
    (c.step b.stamped m w a).1.phase = .poisoned := by
  cases phase : c.phase with
  | open_ =>
    obtain ⟨sent, -, -, -, answered, poisoned⟩ := request_of_open phase b m a w
    refine poisoned ?_
    rw [answered, outcome] at failed
    cases last : lastFault? sent with
    | none =>
      rw [last] at failed
      cases failed
    | some e => rfl
  | poisoned =>
    rw [(request_of_poisoned phase b.stamped m w a).2] at failed
    cases failed
  | closed =>
    rw [(request_of_closed phase b.stamped m w a).2] at failed
    cases a <;> cases failed

theorem closed_of_reply {c : BatchCollector} {b : Backend σ} {m : Moment} {s : σ}
    (closed : c.reply b m s .close = .ok none) : (c.step b m s .close).1.phase = .closed := by
  refine phase_of_close_ok ?_
  have closed : ((close b c s).1.map fun _ => none) = .ok none := closed
  cases ended : (close b c s).1 with
  | error e =>
    rw [ended] at closed
    cases closed
  | ok _ => rfl

/-- How a request of any run submits, and how a run ends. An open collector that has something to
submit makes one append call, or two with the same batch if the first fails in passing, and fails
with the last of them. After such a failure nothing changes any more, no call is made and every
request is refused; after a close that succeeded nothing changes either, and events are refused. -/
theorem ends_for_good (b : Backend σ) (service : ServiceId) (trace : TraceId) (client : Uuid)
    (policy : BatchPolicy) (s : σ) (before after : List (Moment × CollectorAction)) (m : Moment)
    (a : CollectorAction) :
    let now := run b.stamped (start service trace client policy) (.start s) before
    let reply := now.1.reply b.stamped m now.2 a
    let next := now.1.step b.stamped m now.2 a
    let later := next.1.run b.stamped next.2 after
    let answers := Collector.answers b.stamped (.batches next.1) next.2 after
    (∃ sent, next.2.calls = now.2.calls ++ sent ∧
      (now.1.Submits m a → Submission (now.1.taking m a) sent) ∧
      (¬ now.1.Submits m a → sent = []) ∧
      (now.1.phase = .open_ → reply = now.1.outcome m a sent)) ∧
    (∀ t events e, reply = .error (.submit t events e) →
      later = next ∧ answers = after.map fun _ => .error .poisoned) ∧
    (a = .close → reply = .ok none →
      later = next ∧ answers = after.map fun q => closedReply q.2) := by
  intro now reply next later answers
  refine ⟨?_, fun t events e failed => ?_, ?_⟩
  · cases phase : now.1.phase with
    | open_ =>
      obtain ⟨sent, log, submission, idle, answered, -⟩ := request_of_open phase b m a now.2
      exact ⟨sent, log, submission, idle, fun _ => answered⟩
    | poisoned =>
      have still : next = now := (request_of_poisoned phase b.stamped m now.2 a).1
      refine ⟨[], by rw [still, List.append_nil], ?_, fun _ => rfl, nofun⟩
      rintro ⟨isOpen, -⟩
      exact absurd (phase.symm.trans isOpen) nofun
    | closed =>
      have still : next = now := (request_of_closed phase b.stamped m now.2 a).1
      refine ⟨[], by rw [still, List.append_nil], ?_, fun _ => rfl, nofun⟩
      rintro ⟨isOpen, -⟩
      exact absurd (phase.symm.trans isOpen) nofun
  · have poisoned : next.1.phase = .poisoned := poisoned_of_reply failed
    exact run_of_fixed (fun m a => request_of_poisoned poisoned b.stamped m next.2 a) after
  · rintro rfl closing
    have closed : next.1.phase = .closed := closed_of_reply closing
    exact run_of_fixed (fun m a => request_of_closed closed b.stamped m next.2 a) after

/-- The second failure counts, and it is the last call. -/
example :
    let s : Script :=
      ⟨.ok [], .ok [], [], [some (.http 503 ""), some (.timeout 1)], 0, fun _ => .nil⟩
    let requests := ([.process (.request "GET" "shop.example" "/" .epoch), .close, .flushIfDue,
      .close] : List CollectorAction).map fun a => (⟨0, .nil⟩, a)
    Collector.answers scripted (.batches (start .nil .nil .nil .standard)) s requests =
      [.ok (some .forwarded), .error (.submit .nil 1 (.timeout 1)), .error .poisoned,
        .error .poisoned] := by
  decide +kernel

end TrafficTrace.BatchCollector
