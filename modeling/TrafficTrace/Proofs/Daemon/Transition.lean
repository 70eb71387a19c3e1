import Mathlib.Data.List.Induction
import TrafficTrace.Daemon.Basic

/-!
# The steps of a daemon

The step function as a relation with one rule for each thing that can happen. Only this module opens
the step function; what a daemon keeps is shown rule by rule, and then along a whole run.
-/
namespace TrafficTrace

namespace DaemonControl

/-- What has still to be applied of a difference. -/
def arriving : DaemonControl → List TraceInfo
  | applying arriving _ | handling _ arriving _ => arriving
  | _ => []

def leaving : DaemonControl → List TraceId
  | applying _ leaving | handling _ _ leaving => leaving
  | _ => []

/-- Whether a difference is being applied. -/
inductive Applies : DaemonControl → Prop where
  | between (arriving : List TraceInfo) (leaving : List TraceId) :
      Applies (.applying arriving leaving)
  | greeting (info : TraceInfo) (arriving : List TraceInfo) (leaving : List TraceId) :
      Applies (.handling info arriving leaving)

/-- Whether the loop waits and hears of the signal to stop meanwhile. -/
inductive Waits : DaemonControl → Prop where
  | polling (known : List TraceId) : Waits (.polling known)
  | sleeping (delay : Duration) : Waits (.sleeping delay)

end DaemonControl

namespace Daemon

/-! The end of a turn touches the wait before the next poll and nothing else. -/

section

variable (d : Daemon)

theorem finishTurn_eq : ∃ poll control, d.finishTurn = { d with poll := poll, control := control } ∧
    (control = .head ∨ ∃ delay, control = .sleeping delay) := by
  unfold finishTurn
  dsimp only
  split
  · exact ⟨_, _, rfl, .inl rfl⟩
  · exact ⟨_, _, rfl, .inr ⟨_, rfl⟩⟩

theorem finishTurn_control :
    d.finishTurn.control = .head ∨ ∃ delay, d.finishTurn.control = .sleeping delay := by
  obtain ⟨_, _, same, place⟩ := d.finishTurn_eq
  rw [same]
  exact place

/-- What is true of neither place is not true where a turn ends. -/
theorem not_finishTurn_control {P : DaemonControl → Prop} (head : ¬ P .head)
    (asleep : ∀ delay, ¬ P (.sleeping delay)) : ¬ P d.finishTurn.control := by
  rcases d.finishTurn_control with place | ⟨delay, place⟩ <;> rw [place]
  · exact head
  · exact asleep delay

@[simp] theorem finishTurn_known : d.finishTurn.known = d.known := by
  obtain ⟨_, _, same, _⟩ := d.finishTurn_eq
  rw [same]

@[simp] theorem finishTurn_watchers : d.finishTurn.watchers = d.watchers := by
  obtain ⟨_, _, same, _⟩ := d.finishTurn_eq
  rw [same]

@[simp] theorem finishTurn_reports : d.finishTurn.reports = d.reports := by
  obtain ⟨_, _, same, _⟩ := d.finishTurn_eq
  rw [same]

@[simp] theorem finishTurn_dismissed : d.finishTurn.dismissed = d.dismissed := by
  obtain ⟨_, _, same, _⟩ := d.finishTurn_eq
  rw [same]

@[simp] theorem finishTurn_signal : d.finishTurn.signal = d.signal := by
  obtain ⟨_, _, same, _⟩ := d.finishTurn_eq
  rw [same]

@[simp] theorem finishTurn_report : d.finishTurn.report = d.report := by
  obtain ⟨_, _, same, _⟩ := d.finishTurn_eq
  rw [same]

@[simp] theorem finishTurn_calls : d.finishTurn.calls = d.calls := by
  obtain ⟨_, _, same, _⟩ := d.finishTurn_eq
  rw [same]

/-- Only an error is followed by a wait. -/
theorem finishTurn_of_calm (calm : d.poll.phase ≠ .backoff) :
    d.finishTurn = { d with poll := d.poll.settle, control := .head } := by
  have none : d.poll.nextDelay = .zero := by simp [PollState.nextDelay, calm]
  simp [finishTurn, none]

/-! Ending a trace that is not known does nothing. -/

theorem deactivate_of_not_mem {trace : TraceId} (unknown : trace ∉ d.known) :
    d.deactivate trace = d := by
  simp [deactivate, unknown]

theorem deactivate_of_mem {trace : TraceId} (known : trace ∈ d.known) :
    d.deactivate trace = { d with
      known := d.known.filter (· ≠ trace)
      watchers := d.watchers.erase trace
      dismissed := d.dismissed ++ d.owed trace
      report := { d.report with deactivations := d.report.deactivations + 1 }
      calls := d.calls ++ [.deactivated trace] } := by
  simp [deactivate, known]

theorem mem_known_deactivate (trace t : TraceId) :
    t ∈ (d.deactivate trace).known ↔ t ∈ d.known ∧ t ≠ trace := by
  by_cases known : trace ∈ d.known
  · simp [d.deactivate_of_mem known]
  · rw [d.deactivate_of_not_mem known]
    constructor
    · intro member
      refine ⟨member, ?_⟩
      rintro rfl
      exact known member
    · exact fun member => member.1

@[simp] theorem deactivate_control (trace : TraceId) :
    (d.deactivate trace).control = d.control := by
  unfold deactivate
  split <;> rfl

@[simp] theorem deactivate_signal (trace : TraceId) :
    (d.deactivate trace).signal = d.signal := by
  unfold deactivate
  split <;> rfl

@[simp] theorem deactivate_poll (trace : TraceId) : (d.deactivate trace).poll = d.poll := by
  unfold deactivate
  split <;> rfl

@[simp] theorem deactivate_reports (trace : TraceId) :
    (d.deactivate trace).reports = d.reports := by
  unfold deactivate
  split <;> rfl

end

/-- What an event makes of a daemon. -/
inductive Transition (d : Daemon) : DaemonEvent → Daemon → Prop where
  | halt (control : d.control = .head) (told : d.signal.value = true) :
      Transition d .turn { d with control := .stopped }
  | ask (control : d.control = .head) (untold : d.signal.value = false) :
      Transition d .turn { d with poll := d.poll.begin_, control := .polling d.known }
  | change (known : List TraceId) (diff : ActiveTraceDiff) (control : d.control = .polling known) :
      Transition d (.polled (.changed diff)) { d with
        poll := d.poll.observe .changed
        control := .applying diff.activated diff.deactivated }
  | expire (known : List TraceId) (control : d.control = .polling known) :
      Transition d (.polled .timedOut) { d with poll := d.poll.observe .timedOut }.finishTurn
  | fail (known : List TraceId) (e : TransportError) (control : d.control = .polling known) :
      Transition d (.polled (.failed e)) { d with
        poll := d.poll.observe .failed
        report := { d.report with pollErrors := d.report.pollErrors + 1 } }.finishTurn
  | receive (known : List TraceId) (r : WatcherReport) (rest : List WatcherReport)
      (control : d.control = .polling known) (waiting : d.reports = r :: rest) :
      Transition d .received { ({ d with reports := rest }.deactivate r.trace) with
        poll := d.poll.settle
        control := .head }
  | interrupt (control : d.control.Waits) (wakes : d.signal.wakes = true) :
      Transition d .signalled { d with control := .stopped }
  | skip (info : TraceInfo) (rest : List TraceInfo) (gone : List TraceId)
      (control : d.control = .applying (info :: rest) gone) (known : info.id ∈ d.known) :
      Transition d .applied { d with control := .applying rest gone }
  | greet (info : TraceInfo) (rest : List TraceInfo) (gone : List TraceId)
      (control : d.control = .applying (info :: rest) gone) (unknown : info.id ∉ d.known) :
      Transition d .applied { d.activate info with control := .handling info rest gone }
  | watch (info : TraceInfo) (rest : List TraceInfo) (gone : List TraceId)
      (control : d.control = .handling info rest gone) :
      Transition d .applied { d.watch info.id with control := .applying rest gone }
  | dismiss (trace : TraceId) (rest : List TraceId)
      (control : d.control = .applying [] (trace :: rest)) :
      Transition d .applied { d.deactivate trace with control := .applying [] rest }
  | finish (control : d.control = .applying [] []) : Transition d .applied d.finishTurn
  | wake (delay : Duration) (control : d.control = .sleeping delay) :
      Transition d .woke { d with poll := d.poll.settle, control := .head }
  | tell (trace : TraceId) (activation : Nat)
      (live : d.watchers.get? trace = some ⟨activation, true⟩) :
      Transition d (.watched trace) { d with
        watchers := d.watchers.put trace ⟨activation, false⟩
        reports := d.reports ++ [⟨trace, activation⟩] }
  | straggle (r : WatcherReport) (late : r ∈ d.dismissed) :
      Transition d (.straggled r) { d with
        dismissed := d.dismissed.erase r
        reports := d.reports ++ [r] }
  | publish (value : Bool) :
      Transition d (.published value) { d with signal := d.signal.publish value }
  | abandon : Transition d .abandoned { d with signal := d.signal.abandon }

theorem transition_of_step {d d' : Daemon} {e : DaemonEvent} (h : d.step e = some d') :
    d.Transition e d' := by
  cases e with
  | turn =>
    simp only [step] at h
    split at h
    · rename_i control
      split at h
      · cases h
        exact .halt control ‹_›
      · rename_i untold
        cases h
        exact .ask control (Bool.eq_false_iff.mpr untold)
    · cases h
  | polled outcome =>
    simp only [step] at h
    split at h
    · rename_i known control
      cases h
      cases outcome with
      | changed diff => exact .change known diff control
      | timedOut => exact .expire known control
      | failed e => exact .fail known e control
    · cases h
  | received =>
    simp only [step] at h
    split at h
    · rename_i known r rest control waiting
      cases h
      rw [deactivate_poll]
      exact .receive known r rest control waiting
    · cases h
  | signalled =>
    simp only [step] at h
    split at h
    · rename_i known control
      split at h
      · cases h
        exact .interrupt (control ▸ .polling known) ‹_›
      · cases h
    · rename_i delay control
      split at h
      · cases h
        exact .interrupt (control ▸ .sleeping delay) ‹_›
      · cases h
    · cases h
  | applied =>
    simp only [step] at h
    unfold apply at h
    split at h
    · rename_i info rest gone control
      split at h
      · cases h
        exact .skip info rest gone control ‹_›
      · cases h
        exact .greet info rest gone control ‹_›
    · rename_i trace rest control
      cases h
      exact .dismiss trace rest control
    · rename_i control
      cases h
      exact .finish control
    · rename_i info rest gone control
      cases h
      exact .watch info rest gone control
    · cases h
  | woke =>
    simp only [step] at h
    split at h
    · rename_i delay control
      cases h
      exact .wake delay control
    · cases h
  | watched trace =>
    simp only [step] at h
    split at h
    · rename_i w watcher
      obtain ⟨activation, live⟩ := w
      split at h
      · rename_i alive
        cases h
        obtain rfl : live = true := alive
        exact .tell trace activation watcher
      · cases h
    · cases h
  | straggled r =>
    simp only [step] at h
    split at h
    · cases h
      exact .straggle r ‹_›
    · cases h
  | published value =>
    cases h
    exact .publish value
  | abandoned =>
    cases h
    exact .abandon

theorem Transition.step_eq {d d' : Daemon} {e : DaemonEvent} (h : d.Transition e d') :
    d.step e = some d' := by
  cases h with
  | halt control told => simp [step, control, told]
  | ask control untold => simp [step, control, untold]
  | change known diff control => simp [step, control, observe, PollOutcome.result]
  | expire known control => simp [step, control, observe, PollOutcome.result]
  | fail known e control => simp [step, control, observe, PollOutcome.result]
  | receive known r rest control waiting => simp [step, control, waiting]
  | interrupt control wakes =>
    cases waits : d.control with
    | polling known => simp [step, waits, wakes]
    | sleeping delay => simp [step, waits, wakes]
    | _ => rw [waits] at control; cases control
  | skip info rest gone control known => simp [step, apply, control, known]
  | greet info rest gone control unknown => simp [step, apply, control, unknown]
  | watch info rest gone control => simp [step, apply, control]
  | dismiss trace rest control => simp [step, apply, control]
  | finish control => simp [step, apply, control]
  | wake delay control => simp [step, control]
  | tell trace activation live => simp [step, live]
  | straggle r late => simp [step, late]
  | publish value => rfl
  | abandon => rfl

/-- The rules say what the step function does, no more and no less. -/
theorem step_eq_some_iff {d d' : Daemon} {e : DaemonEvent} :
    d.step e = some d' ↔ d.Transition e d' :=
  ⟨transition_of_step, Transition.step_eq⟩

/-! ## Runs -/

@[simp] theorem run?_nil (d : Daemon) : d.run? [] = some d := rfl

theorem run?_cons (d : Daemon) (e : DaemonEvent) (events : List DaemonEvent) :
    d.run? (e :: events) = (d.step e).bind fun m => m.run? events := rfl

theorem run?_append (d : Daemon) (before after : List DaemonEvent) :
    d.run? (before ++ after) = (d.run? before).bind fun m => m.run? after := by
  simp only [run?, List.foldlM_append]
  rfl

theorem run?_cons_eq_some {d d' : Daemon} {e : DaemonEvent} {events : List DaemonEvent} :
    d.run? (e :: events) = some d' ↔ ∃ m, d.Transition e m ∧ m.run? events = some d' := by
  rw [run?_cons, Option.bind_eq_some_iff]
  simp only [step_eq_some_iff]

theorem run?_concat_eq_some {d d' : Daemon} {events : List DaemonEvent} {e : DaemonEvent} :
    d.run? (events ++ [e]) = some d' ↔ ∃ m, d.run? events = some m ∧ m.Transition e d' := by
  rw [run?_append, Option.bind_eq_some_iff]
  simp only [run?_cons_eq_some, run?_nil, Option.some.injEq, exists_eq_right]

/-- What holds at the start and is kept by every step, whatever has happened before, holds after
every run. -/
theorem run?_induction {first : Daemon} {P : List DaemonEvent → Daemon → Prop} (start : P [] first)
    (next : ∀ events d e d', first.run? events = some d → P events d → d.Transition e d' →
      P (events ++ [e]) d') {events : List DaemonEvent} {d : Daemon}
    (h : first.run? events = some d) : P events d := by
  induction events using List.reverseRecOn generalizing d with
  | nil =>
    obtain rfl : first = d := Option.some.inj h
    exact start
  | append_singleton events e ih =>
    obtain ⟨m, before, now⟩ := run?_concat_eq_some.mp h
    exact next events m e d before (ih before) now

end Daemon

end TrafficTrace
