import TrafficTrace.Proofs.Daemon.Replay

/-!
# When a daemon stops

A daemon is meant to run until the signal to stop is true or nobody is left who could publish. When a
turn begins the loop looks at the value of the signal. Wherever it waits it listens for news, and a
publication is news whatever its value: after any of them every wait can be ended, and the watchers
and the heartbeats end as well. Only where nothing but true is published is that the same.
-/
namespace TrafficTrace

namespace DaemonEvent

/-- The value that an event publishes. -/
def value? : DaemonEvent → Option Bool
  | published value => some value
  | _ => none

/-- The value of the signal after events. -/
def current (shutdown : Bool) (events : List DaemonEvent) : Bool :=
  (events.filterMap value?).getLast?.getD shutdown

/-- Whether there has been any news of the signal. -/
def noticed (events : List DaemonEvent) : Bool := events.any notifies

theorem current_concat (shutdown : Bool) (events : List DaemonEvent) (e : DaemonEvent) :
    current shutdown (events ++ [e]) = e.value?.getD (current shutdown events) := by
  rw [current, List.filterMap_append]
  cases value : e.value? with
  | none => simp [value, current]
  | some v => simp [value]

theorem noticed_concat (events : List DaemonEvent) (e : DaemonEvent) :
    noticed (events ++ [e]) = (noticed events || e.notifies) := by
  simp [noticed]

theorem noticed_iff (events : List DaemonEvent) :
    noticed events = true ↔ (∃ value, .published value ∈ events) ∨ .abandoned ∈ events := by
  rw [noticed, List.any_eq_true]
  constructor
  · rintro ⟨e, member, news⟩
    cases e with
    | published value => exact .inl ⟨value, member⟩
    | abandoned => exact .inr member
    | _ => cases news
  · rintro (⟨value, member⟩ | member)
    · exact ⟨_, member, rfl⟩
    · exact ⟨_, member, rfl⟩

theorem published_of_last {events : List DaemonEvent} {value : Bool}
    (last : (events.filterMap value?).getLast? = some value) : .published value ∈ events := by
  obtain ⟨e, member, same⟩ := List.mem_filterMap.mp (List.mem_of_getLast? last)
  cases e with
  | published v =>
    obtain rfl : v = value := Option.some.inj same
    exact member
  | _ => cases same

/-- A signal that is true began so or was told so. -/
theorem of_current {shutdown : Bool} {events : List DaemonEvent}
    (now : current shutdown events = true) : shutdown = true ∨ .published true ∈ events := by
  rw [current] at now
  cases last : (events.filterMap value?).getLast? with
  | none =>
    rw [last] at now
    exact .inl now
  | some v =>
    rw [last] at now
    obtain rfl : v = true := now
    exact .inr (published_of_last last)

/-- If nothing but true is published, a signal that began true or was published is true. -/
theorem current_of_only_true {shutdown : Bool} {events : List DaemonEvent}
    (only : ∀ value, .published value ∈ events → value = true)
    (told : shutdown = true ∨ ∃ value, .published value ∈ events) :
    current shutdown events = true := by
  rw [current]
  cases last : (events.filterMap value?).getLast? with
  | some v => exact only v (published_of_last last)
  | none =>
    rcases told with began | ⟨value, member⟩
    · exact began
    · have listed : value ∈ events.filterMap value? := List.mem_filterMap.mpr ⟨_, member, rfl⟩
      rw [List.getLast?_eq_none_iff.mp last] at listed
      cases listed

end DaemonEvent

open DaemonEvent

/-- The signal as an event leaves it. -/
def StopSignal.hear (s : StopSignal) : DaemonEvent → StopSignal
  | .published value => s.publish value
  | .abandoned => s.abandon
  | _ => s

namespace StopSignal

theorem hear_value (s : StopSignal) (e : DaemonEvent) :
    (s.hear e).value = e.value?.getD s.value := by
  cases e <;> rfl

theorem hear_wakes (s : StopSignal) (e : DaemonEvent) :
    (s.hear e).wakes = (s.wakes || e.notifies) := by
  cases e <;> simp [hear, wakes, publish, abandon, notifies]

end StopSignal

namespace Daemon

variable {d d' : Daemon} {e : DaemonEvent}

/-- Nothing the loop does marks the signal as seen. -/
theorem Transition.signal_eq (t : d.Transition e d') : d'.signal = d.signal.hear e := by
  cases t with
  | expire => exact finishTurn_signal _
  | fail => exact finishTurn_signal _
  | finish => exact finishTurn_signal _
  | receive => exact deactivate_signal _ _
  | dismiss => exact deactivate_signal _ _
  | _ => rfl

/-- The loop stops at the head for the value of the signal, and in a wait for its news. -/
theorem Transition.stopped_cases (t : d.Transition e d') (stopped : d'.control = .stopped) :
    d.control = .stopped ∨ e = .turn ∧ d.control = .head ∧ d.signal.value = true ∨
      e = .signalled ∧ d.control.Waits ∧ d.signal.wakes = true := by
  have turned (d : Daemon) : ¬ d.finishTurn.control = .stopped :=
    d.not_finishTurn_control (P := (· = .stopped)) (fun h => nomatch h) fun _ h => nomatch h
  cases t with
  | halt control told => exact .inr (.inl ⟨rfl, control, told⟩)
  | interrupt control wakes => exact .inr (.inr ⟨rfl, control, wakes⟩)
  | expire => exact absurd stopped (turned _)
  | fail => exact absurd stopped (turned _)
  | finish => exact absurd stopped (turned _)
  | tell => exact .inl stopped
  | straggle => exact .inl stopped
  | publish => exact .inl stopped
  | abandon => exact .inl stopped
  | _ => cases stopped

/-- What a daemon knows of the signal, and why it has stopped if it has. -/
structure Informed (shutdown : Bool) (events : List DaemonEvent) (d : Daemon) : Prop where
  value : d.signal.value = current shutdown events
  wakes : d.signal.wakes = noticed events
  stopped : d.control = .stopped → shutdown = true ∨ noticed events = true

variable {poll : PollState} {shutdown : Bool} {events : List DaemonEvent}

theorem Informed.step (h : Informed shutdown events d) (t : d.Transition e d') :
    Informed shutdown (events ++ [e]) d' where
  value := by rw [t.signal_eq, StopSignal.hear_value, h.value, current_concat]
  wakes := by rw [t.signal_eq, StopSignal.hear_wakes, h.wakes, noticed_concat]
  stopped ended := by
    rw [noticed_concat, Bool.or_eq_true]
    rcases t.stopped_cases ended with before | ⟨rfl, _, told⟩ | ⟨rfl, _, wakes⟩
    · exact (h.stopped before).imp_right .inl
    · refine (of_current (h.value ▸ told)).imp_right fun published => .inl ?_
      exact (noticed_iff events).mpr (.inl ⟨true, published⟩)
    · exact .inr (.inl (h.wakes ▸ wakes))

theorem informed_of_run (run : (start poll shutdown).run? events = some d) :
    Informed shutdown events d := by
  refine run?_induction (P := Informed shutdown) ?_ (fun _ _ _ _ _ h t => h.step t) run
  exact ⟨rfl, rfl, fun stopped => nomatch stopped⟩

/-- When the loop stops after events. -/
structure Stops (shutdown : Bool) (events : List DaemonEvent) (d : Daemon) : Prop where
  only : ∀ e d', d.step e = some d' → d'.control = .stopped → d.control = .stopped ∨
    e = .turn ∧ d.control = .head ∧ current shutdown events = true ∨
    e = .signalled ∧ d.control.Waits ∧ noticed events = true
  told : d.control = .head → current shutdown events = true →
    ∃ d', d.step .turn = some d' ∧ d'.control = .stopped
  noticing : d.control.Waits → noticed events = true →
    ∃ d', d.step .signalled = some d' ∧ d'.control = .stopped
  /-- The loop keeps its promise if nothing but true is published. -/
  promised : (∀ value, .published value ∈ events → value = true) → d.control = .stopped →
    current shutdown events = true ∨ .abandoned ∈ events

theorem Informed.stops (h : Informed shutdown events d) : Stops shutdown events d where
  only e d' stepped stopped := by
    have cases := (transition_of_step stepped).stopped_cases stopped
    rwa [h.value, h.wakes] at cases
  told head now := ⟨_, (Transition.halt head (h.value.trans now)).step_eq, rfl⟩
  noticing waits news := ⟨_, (Transition.interrupt waits (h.wakes.trans news)).step_eq, rfl⟩
  promised only stopped := by
    rcases h.stopped stopped with began | news
    · exact .inl (current_of_only_true only (.inl began))
    · rcases (noticed_iff events).mp news with published | abandoned
      · exact .inl (current_of_only_true only (.inr published))
      · exact .inr abandoned

end Daemon

/-! ## Watchers and heartbeats -/

/-- The activation that a task watches. -/
def WatchTask.owner (t : WatchTask) : TraceId × Nat := (t.trace, t.activation)

namespace Session

variable {σ : Type} (g : SessionSetting σ)

theorem startWatches_of_wakes {s : Session σ} (wakes : s.daemon.signal.wakes = true) :
    (s.startWatches g).tasks = [] := by
  simp [startWatches, wakes]

/-- Without news the watchers go on that the daemon still has. -/
theorem startWatches_of_not_wakes {s : Session σ} (quiet : s.daemon.signal.wakes = false) :
    (s.startWatches g).tasks.map WatchTask.owner =
      (s.tasks.filter s.holds).map WatchTask.owner := by
  unfold startWatches
  rw [quiet]
  generalize s.tasks.filter s.holds = tasks
  show (List.foldr _ ([], s) tasks).1.map WatchTask.owner = _
  induction tasks with
  | nil => rfl
  | cons t rest ih =>
    rw [List.foldr_cons, List.map_cons, ← ih]
    by_cases ready : t.wait = .ready
    · simp only [ready, if_true, List.map_cons]
      rfl
    · simp only [ready, if_false, List.map_cons]

theorem beat_of_free {s : Session σ} (wakes : s.daemon.signal.wakes = true)
    (free : s.heart.busy = none) (fuel : Nat) : (beat g (fuel + 1) s).heart.live = false := by
  unfold beat
  cases live : s.heart.live <;> simp [live, free, wakes]

/-- The news is heard when no call is in flight, at the latest when its end is noted. -/
theorem beat_of_wakes {s : Session σ} (wakes : s.daemon.signal.wakes = true)
    (idle : ∀ busy ∈ s.heart.busy, busy ≤ s.now) (fuel : Nat) :
    (beat g (fuel + 2) s).heart.live = false := by
  cases busy : s.heart.busy with
  | none => exact beat_of_free g wakes busy (fuel + 1)
  | some t =>
    have past : ¬ s.now < t := Nat.not_lt.mpr (idle t busy)
    unfold beat
    cases live : s.heart.live with
    | false => simp [live]
    | true =>
      simp only [live, busy, past, Bool.not_true, Bool.false_eq_true, if_false]
      exact beat_of_free g (s := { s with heart := { s.heart with busy := none, live := true } })
        wakes rfl fuel

/-- Without news the heartbeats go on if their calls return. -/
theorem beat_of_not_wakes
    (returns : ∀ known state, (g.directory.heartbeat g.service known state).1.delay.isSome = true)
    {s : Session σ} (quiet : s.daemon.signal.wakes = false) (live : s.heart.live = true)
    (fuel : Nat) : (beat g fuel s).heart.live = true := by
  induction fuel generalizing s with
  | zero => exact live
  | succ fuel ih =>
    unfold beat
    simp only [live, Bool.not_true, Bool.false_eq_true, if_false]
    split
    · split
      · exact live
      · exact ih (s := { s with heart := { s.heart with busy := none, live := true } }) quiet rfl
    · rw [quiet]
      simp only [Bool.false_eq_true, if_false]
      split
      · exact ih (s := s.sendHeartbeat g) quiet (returns _ _)
      · exact live

/-- What becomes of the other tasks of a session, with news of the signal or without. -/
structure TasksStop (g : SessionSetting σ) (s : Session σ) (news : Bool) : Prop where
  watchers : (s.startWatches g).tasks.map WatchTask.owner =
    if news then [] else (s.tasks.filter s.holds).map WatchTask.owner
  heartbeats : news = true → (∀ busy ∈ s.heart.busy, busy ≤ s.now) →
    ∀ fuel, (beat g (fuel + 2) s).heart.live = false
  beating : news = false → s.heart.live = true →
    (∀ known state, (g.directory.heartbeat g.service known state).1.delay.isSome = true) →
    ∀ fuel, (beat g fuel s).heart.live = true

theorem tasksStop (s : Session σ) : TasksStop g s s.daemon.signal.wakes where
  watchers := by
    cases news : s.daemon.signal.wakes with
    | true => rw [startWatches_of_wakes g news]; rfl
    | false => exact startWatches_of_not_wakes g news
  heartbeats news idle := beat_of_wakes g news idle
  beating quiet live returns := beat_of_not_wakes g returns quiet live

end Session

namespace Daemon

/-- After every run the loop stops for the value of the signal when a turn begins, and wherever it
waits for any news of it, whatever was published; nothing else stops it. Watchers and heartbeats end
for the same news. -/
theorem stops_on_any_notice (poll : PollState) (shutdown : Bool) (events : List DaemonEvent)
    (d : Daemon) (run : (start poll shutdown).run? events = some d) :
    Stops shutdown events d ∧
    ∀ {σ : Type} (g : SessionSetting σ) (s : Session σ), s.daemon = d →
      s.TasksStop g (noticed events) := by
  have informed : Informed shutdown events d := informed_of_run run
  refine ⟨informed.stops, ?_⟩
  rintro σ g s rfl
  rw [← informed.wakes]
  exact Session.tasksStop g s

/-- False is published while a poll is in flight. -/
theorem stops_on_any_notice_of_false :
    ∃ d, (start .standard false).run? [.turn, .published false] = some d ∧
      Stops false [.turn, .published false] d ∧
      ∃ d', d.step .signalled = some d' ∧ d'.control = .stopped := by
  have waiting : ((start .standard false).run? [.turn, .published false]).map (fun d => d.control) =
      some (.polling []) := by decide +kernel
  obtain ⟨d, run, polling⟩ := Option.map_eq_some_iff.mp waiting
  have stops := (stops_on_any_notice .standard false [.turn, .published false] d run).1
  exact ⟨d, run, stops, stops.noticing (polling ▸ .polling []) rfl⟩

/-- So a loop can stop while the signal is false and somebody is left who could publish. -/
theorem false_publication_stops :
    ¬ ∀ (poll : PollState) (shutdown : Bool) (events : List DaemonEvent) (d : Daemon),
      (start poll shutdown).run? events = some d → d.control = .stopped →
      current shutdown events = true ∨ .abandoned ∈ events := by
  intro promised
  have stopped : ((start .standard false).run? [.turn, .published false, .signalled]).map
      (fun d => d.control) = some .stopped := by decide +kernel
  obtain ⟨d, run, control⟩ := Option.map_eq_some_iff.mp stopped
  rcases promised .standard false _ d run control with told | abandoned
  · cases told
  · revert abandoned
    decide

/-- A session whose daemon has stopped began with the signal true or was told of it. -/
theorem session_stopped {σ : Type} (g : SessionSetting σ) (fuel : Nat)
    (signals : List (Instant × DaemonEvent)) (shutdown : Bool) (state : σ)
    (stopped : ((Session.start g shutdown state).run g fuel signals).daemon.control = .stopped) :
    shutdown = true ∨ noticed (signals.map Prod.snd) = true := by
  obtain ⟨events, told, run, ⟨later, rfl⟩, heard, _⟩ :=
    Session.reached_of_run g fuel signals shutdown state
  refine ((informed_of_run run).stopped stopped).imp_right fun news => ?_
  obtain ⟨e, member, notifies⟩ := List.any_eq_true.mp news
  have among : e ∈ (told.map Prod.snd).filter DaemonEvent.notifies :=
    heard ▸ List.mem_filter.mpr ⟨member, notifies⟩
  rw [List.map_append]
  exact List.any_eq_true.mpr
    ⟨e, List.mem_append_left _ (List.mem_filter.mp among).1, notifies⟩

end Daemon

end TrafficTrace
