import TrafficTrace.Daemon.Session
import TrafficTrace.Proofs.Daemon.Roster

/-!
# A session replays a run of its daemon

A session decides when things happen and in which order, and it does so in one way only. Whatever it
decides, its daemon goes through events that can happen to it, so what holds after every run of a
daemon holds of a session as well. Of the signal to stop it is told what the session is told.
-/
namespace TrafficTrace

/-- Whether an event is news about the signal to stop. -/
def DaemonEvent.notifies : DaemonEvent → Bool
  | published _ | abandoned => true
  | _ => false

namespace Daemon

variable {d d' : Daemon} {e : DaemonEvent}

theorem Transition.calls_grow (t : d.Transition e d') : ∃ fresh, d'.calls = d.calls ++ fresh := by
  rcases t.rosterChange with ⟨_, calls, _, _⟩ | ⟨_, _, _, _, _, _, calls, _, _⟩ |
    ⟨_, _, _, _, calls, _, _⟩
  · exact ⟨[], by rw [calls, List.append_nil]⟩
  · exact ⟨_, calls⟩
  · exact ⟨_, calls⟩

/-- News about the signal is never refused. -/
theorem not_notifies_of_refused (refused : d.step e = none) : e.notifies = false := by
  cases e with
  | published => cases refused
  | abandoned => cases refused
  | _ => rfl

end Daemon

namespace Session

variable {σ : Type}

/-- The daemon goes from one session to the other by events with these notices among them, and the
record of what was handled goes along with its calls. -/
inductive Replays (s : Session σ) (notices : List DaemonEvent) (s' : Session σ) : Prop where
  | intro (events : List DaemonEvent) (run : s.daemon.run? events = some s'.daemon)
      (told : events.filter DaemonEvent.notifies = notices)
      (recorded : s.handled.map Prod.snd = s.daemon.calls →
        s'.handled.map Prod.snd = s'.daemon.calls)

namespace Replays

variable {s m s' : Session σ} {notices first rest : List DaemonEvent}

theorem of_same (daemon : s'.daemon = s.daemon) (handled : s'.handled = s.handled) :
    s.Replays [] s' :=
  ⟨[], by rw [daemon]; rfl, rfl, fun recorded => by rw [handled, daemon, recorded]⟩

theorem trans (h : s.Replays first m) (later : m.Replays rest s') :
    s.Replays (first ++ rest) s' := by
  obtain ⟨events, run, told, recorded⟩ := h
  obtain ⟨others, run', told', recorded'⟩ := later
  refine ⟨events ++ others, ?_, ?_, recorded' ∘ recorded⟩
  · rw [Daemon.run?_append, run]
    exact run'
  · rw [List.filter_append, told, told']

/-- A stretch without news before or after another one. -/
theorem after_quiet (h : s.Replays [] m) (later : m.Replays rest s') : s.Replays rest s' :=
  h.trans later

theorem then_quiet (h : s.Replays notices m) (later : m.Replays [] s') : s.Replays notices s' := by
  have whole := h.trans later
  rwa [List.append_nil] at whole

end Replays

theorem replays_perform (s : Session σ) (e : DaemonEvent) :
    s.Replays ([e].filter DaemonEvent.notifies) (s.perform e) := by
  unfold perform
  split
  · rename_i d stepped
    refine ⟨[e], ?_, rfl, fun recorded => ?_⟩
    · rw [Daemon.run?_cons, stepped]
      rfl
    · obtain ⟨fresh, calls⟩ := (Daemon.transition_of_step stepped).calls_grow
      simp [calls, recorded, Function.comp_def]
  · rename_i refused
    have silent := Daemon.not_notifies_of_refused refused
    rw [List.filter_singleton, silent]
    exact .of_same rfl rfl

theorem replays_perform_quiet (s : Session σ) {e : DaemonEvent} (quiet : e.notifies = false) :
    s.Replays [] (s.perform e) := by
  have performed := s.replays_perform e
  rwa [List.filter_singleton, quiet] at performed

variable (g : SessionSetting σ)

theorem replays_startTask (info : TraceInfo) (s : Session σ) : s.Replays [] (s.startTask info) :=
  (s.replays_perform_quiet rfl).then_quiet (.of_same rfl rfl)

theorem replays_settle (fuel : Nat) (s : Session σ) : s.Replays [] (settle g fuel s) := by
  induction fuel generalizing s with
  | zero => exact .of_same rfl rfl
  | succ fuel ih =>
    -- The wait is given up before the loop goes on, which the daemon does not see.
    have leave (e : DaemonEvent) (quiet : e.notifies = false) :
        s.Replays [] ({ s with wait := none }.perform e) :=
      .after_quiet (m := { s with wait := none }) (.of_same rfl rfl)
        (replays_perform_quiet _ quiet)
    unfold settle
    split
    · exact .of_same rfl rfl
    · exact (s.replays_perform_quiet rfl).then_quiet (ih _)
    · split
      · exact (leave .signalled rfl).then_quiet (ih _)
      · split
        · exact (leave .received rfl).then_quiet (ih _)
        · split
          · exact .of_same rfl rfl
          · exact .of_same rfl rfl
    · exact (s.replays_perform_quiet rfl).then_quiet (ih _)
    · split
      · exact .of_same rfl rfl
      · split
        · exact (replays_startTask _ s).then_quiet (ih _)
        · exact .of_same rfl rfl
    · split
      · exact (leave .signalled rfl).then_quiet (ih _)
      · split
        · exact .of_same rfl rfl
        · exact .of_same rfl rfl

theorem replays_endWait (w : LoopWait) (s : Session σ) : s.Replays [] (s.endWait w) := by
  have left : s.Replays [] { s with wait := none } := .of_same rfl rfl
  unfold endWait
  dsimp only
  split
  · refine .then_quiet ?_ (replays_perform_quiet _ rfl)
    split
    · exact .of_same rfl rfl
    · exact left
  · exact left.then_quiet (replays_startTask _ _)
  · exact left.then_quiet (replays_perform_quiet _ rfl)

theorem replays_endWatch (t : WatchTask) (s : Session σ) : s.Replays [] (endWatch t s).2 := by
  unfold endWatch
  split
  · split
    · exact .of_same rfl rfl
    · dsimp only
      split
      · refine .then_quiet ?_ (replays_perform_quiet _ rfl)
        split <;> exact .of_same rfl rfl
      · split <;> exact .of_same rfl rfl
      · split <;> exact .of_same rfl rfl
  · exact .of_same rfl rfl
  · exact .of_same rfl rfl

theorem replays_endWatches (s : Session σ) : s.Replays [] s.endWatches := by
  unfold endWatches
  generalize every : List.foldl _ ([], s) s.tasks = ended
  have waited : s.Replays [] ended.2 := by
    rw [← every]
    refine List.foldlRecOn _ _ (motive := fun m : List WatchTask × Session σ => s.Replays [] m.2)
      (.of_same rfl rfl) ?_
    exact fun _ h t _ => h.then_quiet (replays_endWatch t _)
  exact waited.then_quiet (.of_same rfl rfl)

theorem replays_startWatches (s : Session σ) : s.Replays [] (s.startWatches g) := by
  unfold startWatches
  dsimp only
  generalize every : List.foldr _ ([], s) _ = started
  have polled : s.Replays [] started.2 := by
    rw [← every]
    refine List.foldrRecOn _ _ (motive := fun m : List WatchTask × Session σ => s.Replays [] m.2)
      (.of_same rfl rfl) ?_
    rintro ⟨_, m⟩ h t _
    by_cases ready : t.wait = .ready
    · simp only [ready, if_true]
      exact .then_quiet (m := m) h (.of_same rfl rfl)
    · simp only [ready, if_false]
      exact h
  exact polled.then_quiet (.of_same rfl rfl)

theorem replays_beat (fuel : Nat) (s : Session σ) : s.Replays [] (beat g fuel s) := by
  induction fuel generalizing s with
  | zero => exact .of_same rfl rfl
  | succ fuel ih =>
    unfold beat
    dsimp only
    split
    · exact .of_same rfl rfl
    · split
      · split
        · exact .of_same rfl rfl
        · exact .after_quiet (m := { s with heart := { s.heart with busy := none } })
            (.of_same rfl rfl) (ih _)
      · split
        · exact .of_same rfl rfl
        · split
          · exact .after_quiet (m := s.sendHeartbeat g) (.of_same rfl rfl) (ih _)
          · exact .of_same rfl rfl

/-! One moment, part by part. -/

theorem replays_loop (fuel : Nat) (s : Session σ) :
    s.Replays [] (match s.wait with
      | some w => if s.now < w.end_ then s else settle g fuel (s.endWait w)
      | none => s) := by
  split
  · split
    · exact .of_same rfl rfl
    · exact (replays_endWait _ s).then_quiet (replays_settle g fuel _)
  · exact .of_same rfl rfl

theorem replays_tasks (fuel : Nat) (s : Session σ) :
    s.Replays [] (if s.daemon.control = .stopped then s else beat g fuel (s.startWatches g)) := by
  split
  · exact .of_same rfl rfl
  · exact (replays_startWatches g s).then_quiet (replays_beat g fuel _)

theorem replays_moment (fuel : Nat) (s : Session σ) : s.Replays [] (s.moment g fuel) := by
  have settled : s.Replays [] (settle g fuel s.endWatches) :=
    s.replays_endWatches.then_quiet (replays_settle g fuel _)
  exact (settled.then_quiet (replays_loop g fuel _)).then_quiet (replays_tasks g fuel _)

theorem replays_due (due : List (Instant × DaemonEvent)) (s : Session σ) :
    s.Replays ((due.map Prod.snd).filter DaemonEvent.notifies)
      (due.foldl (fun s e => s.perform e.2) s) := by
  induction due generalizing s with
  | nil => exact .of_same rfl rfl
  | cons first rest ih =>
    have whole := (s.replays_perform first.2).trans (ih (s.perform first.2))
    rwa [← List.filter_append] at whole

/-- The news that a daemon has got by the end of a session is the first part of what was to come. -/
theorem replays_run (fuel : Nat) (signals : List (Instant × DaemonEvent)) (s : Session σ) :
    ∃ told, told <+: signals ∧
      s.Replays ((told.map Prod.snd).filter DaemonEvent.notifies) (s.run g fuel signals) := by
  induction fuel generalizing signals s with
  | zero => exact ⟨[], List.nil_prefix, .of_same rfl rfl⟩
  | succ fuel ih =>
    have settled := replays_moment g (fuel + 1) s
    unfold run
    dsimp only
    generalize s.moment g (fuel + 1) = m at settled
    split
    · exact ⟨[], List.nil_prefix, settled⟩
    · split
      · exact ⟨[], List.nil_prefix, settled⟩
      · rename_i time _
        generalize due_eq : signals.takeWhile (·.1 ≤ time) = due
        obtain ⟨others, rfl⟩ : due <+: signals := due_eq ▸ List.takeWhile_prefix _
        rw [List.drop_left]
        obtain ⟨told, ⟨left, rfl⟩, later⟩ :=
          ih others (due.foldl (fun s e => s.perform e.2) { m with now := time })
        refine ⟨due ++ told, ⟨left, List.append_assoc _ _ _⟩, ?_⟩
        rw [List.map_append, List.filter_append]
        have advanced : m.Replays [] { m with now := time } := .of_same rfl rfl
        exact ((settled.then_quiet advanced).after_quiet (replays_due due _)).trans later

/-- After a session its daemon is one that a run reaches from the start, told no more than the session
was, and the record of what was handled is that of its calls. -/
theorem reached_of_run (fuel : Nat) (signals : List (Instant × DaemonEvent)) (shutdown : Bool)
    (state : σ) :
    ∃ events told,
      (Daemon.start (.start g.config.errorBackoff g.config.maxErrorBackoff) shutdown).run? events =
        some ((start g shutdown state).run g fuel signals).daemon ∧
      told <+: signals ∧
      events.filter DaemonEvent.notifies = (told.map Prod.snd).filter DaemonEvent.notifies ∧
      ((start g shutdown state).run g fuel signals).handled.map Prod.snd =
        ((start g shutdown state).run g fuel signals).daemon.calls := by
  obtain ⟨told, before, ⟨events, run, heard, recorded⟩⟩ :=
    replays_run g fuel signals (start g shutdown state)
  exact ⟨events, told, run, before, heard, recorded rfl⟩

/-- The report of a session counts what its handler was told. -/
theorem report_counts_handled (fuel : Nat) (signals : List (Instant × DaemonEvent))
    (shutdown : Bool) (state : σ) :
    let s := (start g shutdown state).run g fuel signals
    s.daemon.report.activations = s.handled.countP (fun h => h.2.isActivation) ∧
      s.daemon.report.deactivations = s.handled.countP fun h => !h.2.isActivation := by
  intro s
  obtain ⟨events, _, run, _, _, recorded⟩ := reached_of_run g fuel signals shutdown state
  have roster : s.daemon.HasRoster := Daemon.hasRoster_of_run run
  have activations := roster.activations_eq
  have deactivations := roster.deactivations_eq
  rw [← recorded, List.countP_map] at activations deactivations
  exact ⟨activations, deactivations⟩

end Session

end TrafficTrace
