import TrafficTrace.Proofs.Daemon.Roster

/-!
# Why a trace is ended

A trace is ended because an answer says so or because a watcher has reported. A report names the
trace and not the activation that its watcher was started for, and telling a watcher to end does not
take back its report. So a report can outlast its activation: it then ends the next one, unless it is
received first. Every other deactivation has evidence that is younger than the activation it ends,
and where reports are received before answers are taken there is no other.
-/
namespace TrafficTrace

namespace HandlerCall

def activates (t : TraceId) (c : HandlerCall) : Bool := c.isActivation && c.trace = t

/-- The number of the latest activation of a trace among all activations, and zero without any. -/
def latestActivation (t : TraceId) (calls : List HandlerCall) : Nat :=
  (calls.reverse.dropWhile fun c => !c.activates t).countP isActivation

theorem latestActivation_concat (t : TraceId) (calls : List HandlerCall) (c : HandlerCall) :
    latestActivation t (calls ++ [c]) =
      if c.activates t then calls.countP isActivation + 1 else latestActivation t calls := by
  rw [latestActivation, List.reverse_append, List.reverse_singleton, List.singleton_append,
    List.dropWhile_cons]
  cases new : c.activates t with
  | false => simp [latestActivation]
  | true =>
    have isActivation_c : c.isActivation = true := by
      rw [activates, Bool.and_eq_true] at new
      exact new.1
    simp [isActivation_c]

end HandlerCall

open HandlerCall

namespace Daemon

variable {d d' : Daemon} {e : DaemonEvent}

/-- The reports that may still be received: those that wait, and those of watchers told to end. -/
def outstanding (d : Daemon) : List WatcherReport := d.reports ++ d.dismissed

/-- An answer that activates the trace of a report was taken while the report was outstanding. -/
inductive Overtaken (first : Daemon) (events : List DaemonEvent) (r : WatcherReport) : Prop where
  | intro (before after : List DaemonEvent) (diff : ActiveTraceDiff) (asking : Daemon)
      (info : TraceInfo) (split : events = before ++ .polled (.changed diff) :: after)
      (reached : first.run? before = some asking) (outstanding : r ∈ asking.outstanding)
      (listed : info ∈ diff.activated) (own : info.id = r.trace)

theorem Overtaken.concat {first : Daemon} {events : List DaemonEvent} {r : WatcherReport}
    (h : Overtaken first events r) (e : DaemonEvent) : Overtaken first (events ++ [e]) r := by
  obtain ⟨before, after, diff, asking, info, rfl, reached, outstanding, listed, own⟩ := h
  exact ⟨before, after ++ [e], diff, asking, info, by simp, reached, outstanding, listed, own⟩

/-! What a step can do to the numbers of activations, the watchers and the outstanding reports. -/

theorem Transition.latestActivation_eq (t : d.Transition e d') (s : TraceId) :
    latestActivation s d'.calls = latestActivation s d.calls ∨
    ∃ info rest gone, d.control = .applying (info :: rest) gone ∧ info.id = s ∧
      info.id ∉ d.known := by
  rcases t.rosterChange with ⟨_, calls, _, _⟩ |
    ⟨info, rest, gone, control, unknown, _, calls, _, _⟩ | ⟨trace, _, _, _, calls, _, _⟩
  · rw [calls]
    exact .inl rfl
  · by_cases own : info.id = s
    · exact .inr ⟨info, rest, gone, control, own, unknown⟩
    · rw [calls, latestActivation_concat]
      exact .inl (by simp [activates, HandlerCall.trace, own])
  · rw [calls, latestActivation_concat]
    exact .inl (by simp [activates, isActivation])

theorem mem_watchers_deactivate {d : Daemon} {trace s : TraceId} {w : Watcher}
    (h : (d.deactivate trace).watchers.get? s = some w) : d.watchers.get? s = some w := by
  by_cases member : trace ∈ d.known
  · rw [d.deactivate_of_mem member, Assoc.get?_erase] at h
    split at h
    · cases h
    · exact h
  · rwa [d.deactivate_of_not_mem member] at h

/-- A watcher was there before, or it is the one of the trace that the handler was told of. -/
theorem Transition.watcher_cases (t : d.Transition e d') {s : TraceId} {w : Watcher}
    (h : d'.watchers.get? s = some w) :
    (∃ earlier, d.watchers.get? s = some earlier ∧ earlier.activation = w.activation) ∨
    d.control.greeting = some s ∧ w.activation = d.report.activations := by
  cases t with
  | expire => exact .inl ⟨w, by simpa using h, rfl⟩
  | fail => exact .inl ⟨w, by simpa using h, rfl⟩
  | finish => exact .inl ⟨w, by simpa using h, rfl⟩
  | receive _ r rest =>
    exact .inl ⟨w, mem_watchers_deactivate (d := { d with reports := rest }) h, rfl⟩
  | dismiss => exact .inl ⟨w, mem_watchers_deactivate h, rfl⟩
  | watch info rest gone control =>
    have added : (d.watchers.put info.id ⟨d.report.activations, true⟩).get? s = some w := h
    rw [Assoc.get?_put] at added
    split at added
    · rename_i own
      cases added
      refine .inr ⟨?_, rfl⟩
      rw [control, own]
      rfl
    · exact .inl ⟨w, added, rfl⟩
  | tell trace activation live =>
    have changed : (d.watchers.put trace ⟨activation, false⟩).get? s = some w := h
    rw [Assoc.get?_put] at changed
    split at changed
    · rename_i own
      cases changed
      exact .inl ⟨⟨activation, true⟩, own ▸ live, rfl⟩
    · exact .inl ⟨w, changed, rfl⟩
  | _ => exact .inl ⟨w, h, rfl⟩

theorem mem_owed {trace : TraceId} {r : WatcherReport} (h : r ∈ d.owed trace) :
    ∃ w, d.watchers.get? r.trace = some w ∧ w.activation = r.activation := by
  rw [owed] at h
  split at h
  · rename_i w watcher
    split at h
    · obtain rfl := List.mem_singleton.mp h
      exact ⟨w, watcher, rfl⟩
    · cases h
  · cases h

theorem mem_outstanding_deactivate {trace : TraceId} {r : WatcherReport}
    (h : r ∈ (d.deactivate trace).outstanding) :
    r ∈ d.outstanding ∨ ∃ w, d.watchers.get? r.trace = some w ∧ w.activation = r.activation := by
  by_cases member : trace ∈ d.known
  · rw [outstanding, d.deactivate_of_mem member, ← List.append_assoc] at h
    rcases List.mem_append.mp h with earlier | owed
    · exact .inl earlier
    · exact .inr (mem_owed owed)
  · rw [d.deactivate_of_not_mem member] at h
    exact .inl h

/-- A report was outstanding before, or it comes from the present watcher of its trace. -/
theorem Transition.outstanding_cases (t : d.Transition e d') {r : WatcherReport}
    (h : r ∈ d'.outstanding) :
    r ∈ d.outstanding ∨ ∃ w, d.watchers.get? r.trace = some w ∧ w.activation = r.activation := by
  cases t with
  | expire => exact .inl (by simpa [outstanding] using h)
  | fail => exact .inl (by simpa [outstanding] using h)
  | finish => exact .inl (by simpa [outstanding] using h)
  | receive _ first rest _ waiting =>
    rcases mem_outstanding_deactivate h with earlier | present
    · refine .inl ?_
      rw [outstanding, List.mem_append] at earlier ⊢
      rw [waiting]
      exact earlier.imp_left (List.mem_cons_of_mem _)
    · exact .inr present
  | dismiss => exact mem_outstanding_deactivate h
  | tell trace activation live =>
    simp only [outstanding, List.mem_append, List.mem_singleton] at h ⊢
    rcases h with (earlier | rfl) | dismissed
    · exact .inl (.inl earlier)
    · exact .inr ⟨⟨activation, true⟩, live, rfl⟩
    · exact .inl (.inr dismissed)
  | straggle late member =>
    simp only [outstanding, List.mem_append, List.mem_singleton] at h ⊢
    rcases h with (earlier | rfl) | dismissed
    · exact .inl (.inl earlier)
    · exact .inl (.inr member)
    · exact .inl (.inr (List.mem_of_mem_erase dismissed))
  | _ => exact .inl h

/-- Which steps go on with a difference: the answer that brings it, and those that apply it or leave
the loop where it is. -/
theorem Transition.applies_cases (t : d.Transition e d') (applies : d'.control.Applies) :
    (∃ diff, e = .polled (.changed diff) ∧ d'.control = .applying diff.activated diff.deactivated ∧
      d'.calls = d.calls ∧ d'.outstanding = d.outstanding) ∨
    d.control.Applies ∧ d'.control.arriving ⊆ d.control.arriving ∧
      d'.control.leaving ⊆ d.control.leaving ∧ (d'.control.arriving ≠ [] → d.known ⊆ d'.known) := by
  have turned (d : Daemon) : ¬ d.finishTurn.control.Applies :=
    d.not_finishTurn_control (fun h => nomatch h) fun _ h => nomatch h
  have stays (control : d.control = d'.control) (known : d.known = d'.known) :
      d.control.Applies ∧ d'.control.arriving ⊆ d.control.arriving ∧
      d'.control.leaving ⊆ d.control.leaving ∧
      (d'.control.arriving ≠ [] → d.known ⊆ d'.known) := by
    rw [control, known]
    exact ⟨applies, fun _ h => h, fun _ h => h, fun _ _ h => h⟩
  cases t with
  | change _ diff control => exact .inl ⟨diff, rfl, rfl, rfl, rfl⟩
  | expire => exact absurd applies (turned _)
  | fail => exact absurd applies (turned _)
  | finish => exact absurd applies (turned _)
  | skip info rest gone control =>
    rw [control]
    exact .inr ⟨.between _ _, List.subset_cons_self _ _, fun _ h => h, fun _ _ h => h⟩
  | greet info rest gone control =>
    rw [control]
    exact .inr ⟨.between _ _, List.subset_cons_self _ _, fun _ h => h,
      fun _ _ member => Id.mem_insert.mpr (.inr member)⟩
  | watch info rest gone control =>
    rw [control]
    exact .inr ⟨.greeting _ _ _, fun _ h => h, fun _ h => h, fun _ _ h => h⟩
  | dismiss trace rest control =>
    rw [control]
    exact .inr ⟨.between _ _, fun _ h => h, List.subset_cons_self _ _, fun more => absurd rfl more⟩
  | tell => exact .inr (stays rfl rfl)
  | straggle => exact .inr (stays rfl rfl)
  | publish => exact .inr (stays rfl rfl)
  | abandon => exact .inr (stays rfl rfl)
  | _ => cases applies

/-- Where the difference comes from that is being applied, and what has become of its traces since. -/
inductive Underway (first : Daemon) (events : List DaemonEvent) (d : Daemon) : Prop where
  | intro (before after : List DaemonEvent) (diff : ActiveTraceDiff) (asking : Daemon)
      (split : events = before ++ .polled (.changed diff) :: after)
      (reached : first.run? before = some asking)
      (arriving : d.control.arriving ⊆ diff.activated)
      (leaving : d.control.leaving ⊆ diff.deactivated)
      (younger : ∀ t, latestActivation t d.calls = latestActivation t asking.calls ∨
        ∃ info ∈ diff.activated, info.id = t)
      (outstanding : d.control.arriving ≠ [] →
        ∀ r ∈ d.outstanding, r.trace ∈ d.known ∨ r ∈ asking.outstanding)

/-- The watcher of a trace was started for its latest activation, and so was a report's, unless the
report was overtaken. -/
structure Accountable (first : Daemon) (events : List DaemonEvent) (d : Daemon) : Prop where
  underway : d.control.Applies → Underway first events d
  watching : ∀ t w, d.watchers.get? t = some w → w.activation = latestActivation t d.calls
  greeting : ∀ t, d.control.greeting = some t → d.report.activations = latestActivation t d.calls
  outstanding : ∀ r ∈ d.outstanding,
    r.activation = latestActivation r.trace d.calls ∨ Overtaken first events r

namespace Accountable

variable {first : Daemon} {events : List DaemonEvent}

theorem known_of_watcher (attended : d.Attended) {t : TraceId} {w : Watcher}
    (h : d.watchers.get? t = some w) : t ∈ d.known :=
  ((attended.keys t).mp (by simp [h])).1

/-- A trace with a watcher is not activated again. -/
theorem latestActivation_of_watcher (attended : d.Attended) (t : d.Transition e d') {s : TraceId}
    {w : Watcher} (h : d.watchers.get? s = some w) :
    latestActivation s d'.calls = latestActivation s d.calls := by
  rcases t.latestActivation_eq s with same | ⟨_, _, _, _, rfl, unknown⟩
  · exact same
  · exact absurd (known_of_watcher attended h) unknown

theorem underway_step (h : Accountable first events d) (reached : first.run? events = some d)
    (attended : d.Attended) (t : d.Transition e d') (applies : d'.control.Applies) :
    Underway first (events ++ [e]) d' := by
  rcases t.applies_cases applies with ⟨diff, rfl, control, calls, same⟩ |
    ⟨earlier, arriving, leaving, known⟩
  · refine ⟨events, [], diff, d, rfl, reached, ?_, ?_, fun s => .inl (by rw [calls]), ?_⟩
    · rw [control]
      exact List.Subset.refl _
    · rw [control]
      exact List.Subset.refl _
    · intro _ r outstanding
      exact .inr (same ▸ outstanding)
  · obtain ⟨before, after, diff, asking, rfl, asked, listed, unlisted, younger, outstanding⟩ :=
      h.underway earlier
    refine ⟨before, after ++ [e], diff, asking, by simp, asked, List.Subset.trans arriving listed,
      List.Subset.trans leaving unlisted, fun s => ?_, fun more r member => ?_⟩
    · rcases t.latestActivation_eq s with same | ⟨info, rest, gone, control, own, _⟩
      · rw [same]
        exact younger s
      · refine .inr ⟨info, listed ?_, own⟩
        rw [control]
        exact List.mem_cons_self
    -- A report that is new since the answer comes from a watcher, and so its trace is known.
    · have some_arrive : d.control.arriving ≠ [] := fun none =>
        more (List.subset_nil.mp (none ▸ arriving))
      rcases t.outstanding_cases member with before | ⟨w, watcher, _⟩
      · exact (outstanding some_arrive r before).imp_left fun inside => known more inside
      · exact .inl (known more (known_of_watcher attended watcher))

theorem watching_step (h : Accountable first events d) (attended : d.Attended)
    (t : d.Transition e d') {s : TraceId} {w : Watcher} (watcher : d'.watchers.get? s = some w) :
    w.activation = latestActivation s d'.calls := by
  rcases t.watcher_cases watcher with ⟨earlier, present, same⟩ | ⟨greeting, fresh⟩
  · rw [latestActivation_of_watcher attended t present, ← same]
    exact h.watching s earlier present
  · rw [fresh, h.greeting s greeting]
    rcases t.latestActivation_eq s with same | ⟨_, _, _, control, _, _⟩
    · exact same.symm
    · rw [control] at greeting
      cases greeting

theorem greeting_step (h : Accountable first events d) (roster : d.HasRoster)
    (t : d.Transition e d') {s : TraceId} (greeting : d'.control.greeting = some s) :
    d'.report.activations = latestActivation s d'.calls := by
  cases t with
  | greet info rest gone control unknown =>
    obtain rfl : info.id = s := Option.some.inj greeting
    have counted := roster.activations_eq
    show d.report.activations + 1 = latestActivation info.id (d.calls ++ [.activated info])
    rw [latestActivation_concat, counted]
    simp [activates, isActivation, HandlerCall.trace]
  | expire => simp at greeting
  | fail => simp at greeting
  | finish => simp at greeting
  | tell => exact h.greeting s greeting
  | straggle => exact h.greeting s greeting
  | publish => exact h.greeting s greeting
  | abandon => exact h.greeting s greeting
  | _ => cases greeting

/-- A report is overtaken in one way only: by a difference that was taken while it was outstanding and
that activates its trace anew. -/
theorem outstanding_step (h : Accountable first events d) (attended : d.Attended)
    (t : d.Transition e d') {r : WatcherReport} (member : r ∈ d'.outstanding) :
    r.activation = latestActivation r.trace d'.calls ∨ Overtaken first (events ++ [e]) r := by
  rcases t.outstanding_cases member with earlier | ⟨w, watcher, same⟩
  · rcases h.outstanding r earlier with own | overtaken
    · rcases t.latestActivation_eq r.trace with same | ⟨info, rest, gone, control, renewed, unknown⟩
      · exact .inl (own.trans same.symm)
      · have applies : d.control.Applies := control ▸ .between _ _
        obtain ⟨before, after, diff, asking, rfl, asked, listed, _, _, outstanding⟩ :=
          h.underway applies
        rw [control] at listed outstanding
        rcases outstanding (List.cons_ne_nil _ _) r earlier with known | outstanding
        · exact absurd (renewed ▸ known) unknown
        · exact .inr (Overtaken.concat ⟨before, after, diff, asking, info, rfl, asked, outstanding,
            listed List.mem_cons_self, renewed⟩ e)
    · exact .inr (overtaken.concat e)
  · rw [latestActivation_of_watcher attended t watcher, ← same]
    exact .inl (h.watching r.trace w watcher)

theorem step (h : Accountable first events d) (reached : first.run? events = some d)
    (attended : d.Attended) (roster : d.HasRoster) (t : d.Transition e d') :
    Accountable first (events ++ [e]) d' where
  underway := h.underway_step reached attended t
  watching _ _ := h.watching_step attended t
  greeting _ := h.greeting_step roster t
  outstanding _ := h.outstanding_step attended t

end Accountable

/-- No answer is taken while a report waits, and no watcher reports that was told to end. -/
structure Prompt (first : Daemon) (events : List DaemonEvent) : Prop where
  answers : ∀ before outcome after d, events = before ++ .polled outcome :: after →
    first.run? before = some d → d.reports = []
  silent : ∀ r, .straggled r ∉ events

theorem Prompt.init {first : Daemon} {events : List DaemonEvent} {e : DaemonEvent}
    (h : Prompt first (events ++ [e])) : Prompt first events where
  answers before outcome after d split reached :=
    h.answers before outcome (after ++ [e]) d (by simp [split]) reached
  silent r member := h.silent r (List.mem_append_left _ member)

namespace Timely

variable {first : Daemon} {events : List DaemonEvent}

end Timely

/-! ## Ends of activations -/

/-- A trace, as an answer lists it. -/
def listedTrace : TraceInfo := ⟨⟨.fill 1⟩, ⟨.fill 0⟩, "run", .empty, true, none⟩

/-- The trace starts, and its watcher reports the end of it. -/
def reporting : List DaemonEvent :=
  [.turn, .polled (.changed ⟨[listedTrace], []⟩), .applied, .applied, .applied, .turn,
    .watched listedTrace.id]

end Daemon

end TrafficTrace
