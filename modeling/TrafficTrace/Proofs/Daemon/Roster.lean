import Mathlib.Data.List.Chain
import Mathlib.Data.List.Nodup
import TrafficTrace.Proofs.Daemon.Transition

/-!
# The roster of a daemon

The known traces, the watchers, the counters and the calls of the handler record one thing in four
ways. They are changed in different branches of the loop; that they agree again whenever a turn
begins is shown here for every run, whatever polls answer and watchers report in whatever order.
-/
namespace TrafficTrace

namespace HandlerCall

/-- The trace that a call is about. -/
def trace : HandlerCall → TraceId
  | activated info => info.id
  | deactivated trace => trace

def isActivation : HandlerCall → Bool
  | activated _ => true
  | deactivated _ => false

/-- The calls about one trace. -/
def about (trace : TraceId) (calls : List HandlerCall) : List HandlerCall :=
  calls.filter fun c => c.trace = trace

/-- Whether the last call is an activation. -/
def endsActive (calls : List HandlerCall) : Bool := calls.getLast?.any isActivation

/-- Activations and deactivations in turn, an activation first. -/
structure Alternates (calls : List HandlerCall) : Prop where
  first : ∀ c ∈ calls.head?, c.isActivation = true
  turns : calls.IsChain fun c next => next.isActivation = !c.isActivation

theorem about_concat (t : TraceId) (calls : List HandlerCall) (c : HandlerCall) :
    about t (calls ++ [c]) = about t calls ++ if c.trace = t then [c] else [] := by
  rw [about, List.filter_append, List.filter_singleton]
  by_cases own : c.trace = t <;> simp [about, own]

theorem endsActive_about_concat (t : TraceId) (calls : List HandlerCall) (c : HandlerCall) :
    endsActive (about t (calls ++ [c])) =
      if c.trace = t then c.isActivation else endsActive (about t calls) := by
  rw [about_concat]
  by_cases own : c.trace = t <;> simp [endsActive, own]

theorem alternates_nil : Alternates [] := ⟨by simp, .nil⟩

theorem Alternates.concat {calls : List HandlerCall} (h : Alternates calls) {c : HandlerCall}
    (turn : c.isActivation = !endsActive calls) : Alternates (calls ++ [c]) := by
  cases last : calls.getLast? with
  | none =>
    obtain rfl : calls = [] := List.getLast?_eq_none_iff.mp last
    refine ⟨?_, .singleton c⟩
    intro x hx
    obtain rfl : c = x := by simpa using hx
    exact turn
  | some b =>
    have filled : calls ≠ [] := by
      rintro rfl
      cases last
    have after : c.isActivation = !b.isActivation := by simpa [endsActive, last] using turn
    refine ⟨?_, h.turns.append (.singleton c) ?_⟩
    · rw [List.head?_append_of_ne_nil calls filled]
      exact h.first
    · intro x hx y hy
      rw [last, Option.mem_some_iff] at hx
      rw [List.head?_singleton, Option.mem_some_iff] at hy
      rw [← hx, ← hy]
      exact after

end HandlerCall

open HandlerCall

/-- The known traces are those whose last call is an activation, and the counters count calls. -/
structure Roster (known : List TraceId) (calls : List HandlerCall)
    (activations deactivations : Nat) : Prop where
  distinct : known.Nodup
  alternating : ∀ t, Alternates (about t calls)
  latest : ∀ t, t ∈ known ↔ endsActive (about t calls) = true
  activations_eq : activations = calls.countP isActivation
  deactivations_eq : deactivations = calls.countP fun c => !c.isActivation
  balance : activations = deactivations + known.length

namespace Roster

variable {known : List TraceId} {calls : List HandlerCall} {activations deactivations : Nat}

theorem empty : Roster [] [] 0 0 where
  distinct := .nil
  alternating _ := alternates_nil
  latest _ := by simp [about, endsActive]
  activations_eq := rfl
  deactivations_eq := rfl
  balance := rfl

/-- A call that is in turn for its trace keeps the calls about every trace alternating. -/
theorem alternating_concat (h : Roster known calls activations deactivations) {c : HandlerCall}
    (turn : c.trace ∈ known ↔ c.isActivation = false) (t : TraceId) :
    Alternates (about t (calls ++ [c])) := by
  rw [about_concat]
  split
  · rename_i own
    subst own
    apply (h.alternating c.trace).concat
    have latest := h.latest c.trace
    cases new : c.isActivation <;> simp_all
  · rw [List.append_nil]
    exact h.alternating t

theorem activate (h : Roster known calls activations deactivations) {info : TraceInfo}
    (unknown : info.id ∉ known) :
    Roster (Id.insert info.id known) (calls ++ [.activated info]) (activations + 1)
      deactivations where
  distinct := (Id.insert_perm unknown).nodup_iff.mpr (List.nodup_cons.mpr ⟨unknown, h.distinct⟩)
  alternating := h.alternating_concat (by simpa [trace, isActivation] using unknown)
  latest t := by
    rw [endsActive_about_concat, Id.mem_insert, h.latest t]
    by_cases own : t = info.id
    · simp [own, trace, isActivation]
    · simp [own, trace, Ne.symm own]
  activations_eq := by simp [h.activations_eq, isActivation]
  deactivations_eq := by simp [h.deactivations_eq, isActivation]
  balance := by
    have one_more := (Id.insert_perm unknown).length_eq
    have balance := h.balance
    simp only [List.length_cons] at one_more
    omega

theorem deactivate (h : Roster known calls activations deactivations) {t : TraceId}
    (member : t ∈ known) :
    Roster (known.filter (· ≠ t)) (calls ++ [.deactivated t]) activations
      (deactivations + 1) where
  distinct := h.distinct.filter _
  alternating := h.alternating_concat (by simpa [trace, isActivation] using member)
  latest s := by
    rw [endsActive_about_concat]
    by_cases own : t = s
    · simp [own, trace, isActivation]
    · simp [own, trace, h.latest s, Ne.symm own]
  activations_eq := by simp [h.activations_eq, isActivation]
  deactivations_eq := by simp [h.deactivations_eq, isActivation]
  balance := by
    have one_less : (known.filter (· ≠ t)).length = known.length - 1 := by
      rw [← List.length_erase_of_mem member, h.distinct.erase_eq_filter]
      refine congrArg List.length (List.filter_congr fun x _ => ?_)
      by_cases own : x = t <;> simp [own]
    have present := List.length_pos_of_mem member
    have balance := h.balance
    omega

end Roster

namespace Daemon

/-- What tells the loop that a trace has ended: the report of a watcher or a difference. -/
inductive Ends (d : Daemon) : DaemonEvent → TraceId → Prop where
  | report (known : List TraceId) (r : WatcherReport) (rest : List WatcherReport)
      (control : d.control = .polling known) (waiting : d.reports = r :: rest) :
      Ends d .received r.trace
  | diff (trace : TraceId) (rest : List TraceId)
      (control : d.control = .applying [] (trace :: rest)) : Ends d .applied trace

/-- All that a step can do to the roster. -/
inductive RosterChange (d : Daemon) (e : DaemonEvent) (d' : Daemon) : Prop where
  | kept (known : d'.known = d.known) (calls : d'.calls = d.calls)
      (activations : d'.report.activations = d.report.activations)
      (deactivations : d'.report.deactivations = d.report.deactivations)
  | joined (info : TraceInfo) (rest : List TraceInfo) (gone : List TraceId)
      (control : d.control = .applying (info :: rest) gone) (unknown : info.id ∉ d.known)
      (known : d'.known = Id.insert info.id d.known)
      (calls : d'.calls = d.calls ++ [.activated info])
      (activations : d'.report.activations = d.report.activations + 1)
      (deactivations : d'.report.deactivations = d.report.deactivations)
  | left (trace : TraceId) (ends : d.Ends e trace) (member : trace ∈ d.known)
      (known : d'.known = d.known.filter (· ≠ trace))
      (calls : d'.calls = d.calls ++ [.deactivated trace])
      (activations : d'.report.activations = d.report.activations)
      (deactivations : d'.report.deactivations = d.report.deactivations + 1)

variable {d d' : Daemon} {e : DaemonEvent}

theorem Transition.rosterChange (h : d.Transition e d') : RosterChange d e d' := by
  cases h with
  | expire => exact .kept (by simp) (by simp) (by simp) (by simp)
  | fail => exact .kept (by simp) (by simp) (by simp) (by simp)
  | finish => exact .kept (by simp) (by simp) (by simp) (by simp)
  | receive known r rest control waiting =>
    by_cases member : r.trace ∈ d.known
    · have ended := deactivate_of_mem { d with reports := rest } member
      exact .left r.trace (.report known r rest control waiting) member (by rw [ended])
        (by rw [ended]) (by rw [ended]) (by rw [ended])
    · have same := deactivate_of_not_mem { d with reports := rest } member
      exact .kept (by rw [same]) (by rw [same]) (by rw [same]) (by rw [same])
  | greet info rest gone control unknown =>
    exact .joined info rest gone control unknown rfl rfl rfl rfl
  | dismiss trace rest control =>
    by_cases member : trace ∈ d.known
    · have ended := d.deactivate_of_mem member
      exact .left trace (.diff trace rest control) member (by rw [ended]) (by rw [ended])
        (by rw [ended]) (by rw [ended])
    · have same := d.deactivate_of_not_mem member
      exact .kept (by rw [same]) (by rw [same]) (by rw [same]) (by rw [same])
  | _ => exact .kept rfl rfl rfl rfl

/-- The daemon's own records agree with the calls it has made. -/
def HasRoster (d : Daemon) : Prop :=
  Roster d.known d.calls d.report.activations d.report.deactivations

theorem HasRoster.step (h : d.HasRoster) (t : d.Transition e d') : d'.HasRoster := by
  unfold HasRoster at h ⊢
  rcases t.rosterChange with ⟨known, calls, activations, deactivations⟩ |
    ⟨info, rest, gone, control, unknown, known, calls, activations, deactivations⟩ |
    ⟨trace, ends, member, known, calls, activations, deactivations⟩
  · rw [known, calls, activations, deactivations]
    exact h
  · rw [known, calls, activations, deactivations]
    exact h.activate unknown
  · rw [known, calls, activations, deactivations]
    exact h.deactivate member

end Daemon

/-- The trace whose activation the handler is being told of. -/
def DaemonControl.greeting : DaemonControl → Option TraceId
  | handling info _ _ => some info.id
  | _ => none

namespace Daemon

variable {d d' : Daemon} {e : DaemonEvent}

@[simp] theorem finishTurn_greeting (d : Daemon) : d.finishTurn.control.greeting = none := by
  obtain ⟨_, _, same, rfl | ⟨_, rfl⟩⟩ := d.finishTurn_eq <;> rw [same] <;> rfl

/-- Every known trace has a watcher, but for one that the handler is still being told of. -/
structure Attended (d : Daemon) : Prop where
  keys : ∀ t, (d.watchers.get? t).isSome = true ↔ t ∈ d.known ∧ d.control.greeting ≠ some t
  greeted : ∀ t, d.control.greeting = some t → t ∈ d.known

namespace Attended

theorem frame (h : d.Attended) (known : d'.known = d.known)
    (watchers : ∀ t, (d'.watchers.get? t).isSome = (d.watchers.get? t).isSome)
    (greeting : d'.control.greeting = d.control.greeting) : d'.Attended where
  keys t := by rw [known, watchers, greeting]; exact h.keys t
  greeted t := by rw [known, greeting]; exact h.greeted t

/-- Where nobody is being greeted, a trace leaves with its watcher. -/
theorem deactivate (h : d.Attended) (nobody : d.control.greeting = none) (trace : TraceId) :
    (d.deactivate trace).Attended := by
  by_cases member : trace ∈ d.known
  · refine ⟨fun t => ?_, fun t => ?_⟩
    · have keys := h.keys t
      by_cases own : t = trace <;> simp_all [d.deactivate_of_mem member]
    · simp [nobody]
  · rw [d.deactivate_of_not_mem member]
    exact h

theorem step (h : d.Attended) (t : d.Transition e d') : d'.Attended := by
  cases t with
  | halt control _ => exact h.frame rfl (fun _ => rfl) (by rw [control]; rfl)
  | ask control _ => exact h.frame rfl (fun _ => rfl) (by rw [control]; rfl)
  | change _ _ control => exact h.frame rfl (fun _ => rfl) (by rw [control]; rfl)
  | expire _ control =>
    exact h.frame (by simp) (by simp) (by rw [finishTurn_greeting, control]; rfl)
  | fail _ _ control =>
    exact h.frame (by simp) (by simp) (by rw [finishTurn_greeting, control]; rfl)
  | receive _ r rest control _ =>
    have nobody : d.control.greeting = none := by rw [control]; rfl
    have shorter : Attended { d with reports := rest } := h.frame rfl (fun _ => rfl) rfl
    exact (shorter.deactivate nobody r.trace).frame rfl (fun _ => rfl) (by simp [nobody]; rfl)
  | interrupt control _ =>
    have nobody : d.control.greeting = none := by
      generalize d.control = c at control
      cases control <;> rfl
    exact h.frame rfl (fun _ => rfl) (by rw [nobody]; rfl)
  | skip _ _ _ control _ => exact h.frame rfl (fun _ => rfl) (by rw [control]; rfl)
  | greet info rest gone control unknown =>
    have nobody : d.control.greeting = none := by rw [control]; rfl
    refine ⟨fun t => ?_, fun t greeted => ?_⟩
    · have keys := h.keys t
      rw [nobody] at keys
      show (d.watchers.get? t).isSome = true ↔ t ∈ Id.insert info.id d.known ∧ some info.id ≠ some t
      by_cases own : t = info.id
      · subst own
        simpa [unknown] using keys
      · simpa [own, Ne.symm own] using keys
    · obtain rfl : info.id = t := Option.some.inj greeted
      exact Id.mem_insert.mpr (.inl rfl)
  | watch info rest gone control =>
    have greeting : d.control.greeting = some info.id := by rw [control]; rfl
    have member : info.id ∈ d.known := h.greeted info.id greeting
    refine ⟨fun t => ?_, fun _ greeted => by cases greeted⟩
    have keys := h.keys t
    rw [greeting] at keys
    show ((d.watchers.put info.id _).get? t).isSome = true ↔ t ∈ d.known ∧ none ≠ some t
    by_cases own : t = info.id
    · simp [own, member]
    · simpa [own, Ne.symm own] using keys
  | dismiss trace rest control =>
    have nobody : d.control.greeting = none := by rw [control]; rfl
    exact (h.deactivate nobody trace).frame rfl (fun _ => rfl) (by simp [nobody]; rfl)
  | finish control => exact h.frame (by simp) (by simp) (by rw [finishTurn_greeting, control]; rfl)
  | wake _ control => exact h.frame rfl (fun _ => rfl) (by rw [control]; rfl)
  | tell trace _ live =>
    refine h.frame rfl (fun t => ?_) rfl
    by_cases own : t = trace <;> simp [own, live]
  | straggle => exact h.frame rfl (fun _ => rfl) rfl
  | publish => exact h.frame rfl (fun _ => rfl) rfl
  | abandon => exact h.frame rfl (fun _ => rfl) rfl

end Attended

/-- A poll in flight was given the traces that are known now. -/
def Asked (d : Daemon) : Prop := ∀ known, d.control = .polling known → known = d.known

theorem asked_finishTurn (d : Daemon) : d.finishTurn.Asked := by
  intro known polling
  exact absurd polling
    (d.not_finishTurn_control (P := (· = .polling known)) (fun h => nomatch h) fun _ h => nomatch h)

theorem Asked.step (h : d.Asked) (t : d.Transition e d') : d'.Asked := by
  cases t with
  | ask =>
    intro known polling
    cases polling
    rfl
  | expire => exact asked_finishTurn _
  | fail => exact asked_finishTurn _
  | finish => exact asked_finishTurn _
  | tell => exact h
  | straggle => exact h
  | publish => exact h
  | abandon => exact h
  | _ =>
    intro known polling
    cases polling

variable {poll : PollState} {shutdown : Bool} {events : List DaemonEvent}

theorem asked_of_run (run : (start poll shutdown).run? events = some d) : d.Asked := by
  refine run?_induction (P := fun _ d => d.Asked) ?_ (fun _ _ _ _ _ asked t => asked.step t) run
  intro known polling
  cases polling

theorem attended_of_run (run : (start poll shutdown).run? events = some d) : d.Attended := by
  refine run?_induction (P := fun _ d => d.Attended) ?_ (fun _ _ _ _ _ h t => h.step t) run
  refine ⟨fun t => ?_, fun t greeted => ?_⟩
  · simp [start]
  · cases greeted

theorem hasRoster_of_run (run : (start poll shutdown).run? events = some d) : d.HasRoster := by
  refine run?_induction (P := fun _ d => d.HasRoster) ?_ (fun _ _ _ _ _ h t => h.step t) run
  exact Roster.empty

end Daemon

/-- Whether a poll for the active traces ended in an error. -/
def DaemonEvent.isFailure : DaemonEvent → Bool
  | polled (.failed _) => true
  | _ => false

namespace Daemon

variable {d d' : Daemon} {e : DaemonEvent}

theorem pollErrors_deactivate (d : Daemon) (trace : TraceId) :
    (d.deactivate trace).report.pollErrors = d.report.pollErrors := by
  unfold deactivate
  split <;> rfl

theorem Transition.pollErrors_eq (t : d.Transition e d') :
    d'.report.pollErrors = d.report.pollErrors + if e.isFailure then 1 else 0 := by
  cases t with
  | expire => simp [DaemonEvent.isFailure]
  | fail => simp [DaemonEvent.isFailure]
  | finish => simp [DaemonEvent.isFailure]
  | receive => exact pollErrors_deactivate _ _
  | dismiss => exact pollErrors_deactivate _ _
  | _ => rfl

theorem pollErrors_of_run {poll : PollState} {shutdown : Bool} {events : List DaemonEvent}
    (run : (start poll shutdown).run? events = some d) :
    d.report.pollErrors = events.countP DaemonEvent.isFailure := by
  refine run?_induction
    (P := fun events d => d.report.pollErrors = events.countP DaemonEvent.isFailure) rfl ?_ run
  intro events d e d' _ errors t
  rw [t.pollErrors_eq, errors, List.countP_append, List.countP_singleton]

/-- How the records of a daemon agree when a turn begins. -/
structure Consistent (events : List DaemonEvent) (d : Daemon) : Prop where
  distinct : d.known.Nodup
  watched : ∀ t, t ∈ d.known ↔ (d.watchers.get? t).isSome = true
  alternating : ∀ t, Alternates (about t d.calls)
  latest : ∀ t, t ∈ d.known ↔ endsActive (about t d.calls) = true
  activations : d.report.activations = d.calls.countP isActivation
  deactivations : d.report.deactivations = d.calls.countP fun c => !c.isActivation
  balance : d.report.activations = d.report.deactivations + d.known.length
  pollErrors : d.report.pollErrors = events.countP DaemonEvent.isFailure

/-- Whenever a turn begins, the known traces are those with a watcher and those whose last call was
an activation, the calls about each trace alternate, and the counters count calls and errors. Every
poll asks for news about exactly the traces that are known. -/
theorem turn_begins_consistent (poll : PollState) (shutdown : Bool) (events : List DaemonEvent)
    (d : Daemon) (run : (start poll shutdown).run? events = some d) :
    (d.control = .head → Consistent events d) ∧
      ∀ known, d.control = .polling known → known = d.known := by
  refine ⟨fun head => ?_, asked_of_run run⟩
  have roster : d.HasRoster := hasRoster_of_run run
  exact {
    distinct := roster.distinct
    watched := fun t => by
      rw [(attended_of_run run).keys t, head]
      simp [DaemonControl.greeting]
    alternating := roster.alternating
    latest := roster.latest
    activations := roster.activations_eq
    deactivations := roster.deactivations_eq
    balance := roster.balance
    pollErrors := pollErrors_of_run run }

/-- A difference names one trace twice and ends one that was never known. Then a watcher reports, and
a poll fails. -/
theorem turn_begins_consistent_after_error :
    let info (n : UInt8) : TraceInfo := ⟨⟨.fill n⟩, ⟨.fill 0⟩, "run", .empty, true, none⟩
    let events : List DaemonEvent :=
      [.turn, .polled (.changed ⟨[info 1, info 2, info 1], [⟨.fill 3⟩]⟩),
        .applied, .applied, .applied, .applied, .applied, .applied, .applied,
        .turn, .watched ⟨.fill 2⟩, .received, .turn, .polled (.failed (.timeout 1)), .woke]
    ∃ d, (start .standard false).run? events = some d ∧ d.control = .head ∧
      d.report = ⟨2, 1, 1⟩ ∧ Consistent events d := by
  intro info events
  have ended : ((start .standard false).run? events).map (fun d => (d.control, d.report)) =
      some (.head, ⟨2, 1, 1⟩) := by decide +kernel
  obtain ⟨d, run, last⟩ := Option.map_eq_some_iff.mp ended
  obtain ⟨head, report⟩ := Prod.mk.inj last
  exact ⟨d, run, head, report, (turn_begins_consistent .standard false events d run).1 head⟩

end Daemon

end TrafficTrace
