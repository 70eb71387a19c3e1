import TrafficTrace.Proofs.Daemon.Roster

/-!
# A daemon comes to know what is active

A poll is answered with a difference to the traces that it was sent with. Nothing can change the
known traces between the question and the answer without leaving the poll, so the difference always
meets the set that it was made for. Once it is applied, the known traces are the active ones.
-/
namespace TrafficTrace

namespace Daemon

variable {d d' : Daemon} {e : DaemonEvent}

/-- While a poll is in flight only a report can change the known traces, and it ends the turn. -/
theorem Transition.known_of_polling (t : d.Transition e d') {known : List TraceId}
    (polling : d.control = .polling known) :
    d'.known = d.known ∨ e = .received ∧ d'.control = .head := by
  rcases t.rosterChange with ⟨same, _, _, _⟩ | ⟨_, _, _, control, _, _, _, _, _⟩ |
    ⟨trace, ends, _, _, _, _, _⟩
  · exact .inl same
  · rw [polling] at control
    cases control
  · cases ends with
    | report =>
      cases t
      exact .inr ⟨rfl, rfl⟩
    | diff _ _ control =>
      rw [polling] at control
      cases control

/-- A trace that will be known when the rest of the difference is applied. -/
def Expected (d : Daemon) (t : TraceId) : Prop :=
  (t ∈ d.known ∨ ∃ info ∈ d.control.arriving, info.id = t) ∧ t ∉ d.control.leaving

/-- In the midst of a turn whose difference leads to the active traces, or at its end. -/
structure Approaches (active : List TraceId) (d : Daemon) : Prop where
  place : d.control.Applies ∨ d.control = .head
  calm : d.poll.phase ≠ .backoff
  expected : ∀ t, d.Expected t ↔ t ∈ active

namespace Approaches

variable {active : List TraceId}

theorem known_of_head (h : d.Approaches active) (head : d.control = .head) (t : TraceId) :
    t ∈ d.known ↔ t ∈ active := by
  rw [← h.expected t]
  simp [Expected, head, DaemonControl.arriving, DaemonControl.leaving]

theorem ended (calm : d.poll.phase ≠ .backoff) (known : ∀ t, t ∈ d.known ↔ t ∈ active) :
    d.finishTurn.Approaches active := by
  rw [d.finishTurn_of_calm calm]
  refine ⟨.inr rfl, by simp [PollState.settle], fun t => ?_⟩
  rw [← known t]
  simp [Expected, DaemonControl.arriving, DaemonControl.leaving]

/-- A step that leaves the roster and the place in the loop alone. -/
theorem frame (h : d.Approaches active) (control : d'.control = d.control)
    (known : d'.known = d.known) (poll : d'.poll = d.poll) : d'.Approaches active where
  place := by rw [control]; exact h.place
  calm := by rw [poll]; exact h.calm
  expected t := by
    rw [← h.expected t, Expected, Expected, control, known]

/-- The rest of the difference makes up for each part that is applied, whatever happens besides. -/
theorem step (h : d.Approaches active) (t : d.Transition e d') (inside : e ≠ .turn) :
    d'.Approaches active := by
  have elsewhere {c : DaemonControl} (control : d.control = c) (outside : ¬ c.Applies)
      (later : c ≠ .head) : d'.Approaches active := by
    rcases h.place with applies | head
    · exact absurd (control ▸ applies) outside
    · exact absurd (control ▸ head) later
  cases t with
  | halt => exact absurd rfl inside
  | ask => exact absurd rfl inside
  | change _ _ control => exact elsewhere control (fun a => nomatch a) (fun a => nomatch a)
  | expire _ control => exact elsewhere control (fun a => nomatch a) (fun a => nomatch a)
  | fail _ _ control => exact elsewhere control (fun a => nomatch a) (fun a => nomatch a)
  | receive _ _ _ control _ => exact elsewhere control (fun a => nomatch a) (fun a => nomatch a)
  | wake _ control => exact elsewhere control (fun a => nomatch a) (fun a => nomatch a)
  | interrupt waits _ =>
    refine elsewhere rfl (fun applies => ?_) (fun head => ?_)
    · generalize d.control = c at waits applies
      cases waits <;> cases applies
    · rw [head] at waits
      cases waits
  | skip info rest gone control known =>
    refine ⟨.inl (.between rest gone), h.calm, fun t => ?_⟩
    rw [← h.expected t]
    simp only [Expected, control, DaemonControl.arriving, DaemonControl.leaving, List.mem_cons]
    constructor
    · rintro ⟨member | ⟨i, later, own⟩, stays⟩
      · exact ⟨.inl member, stays⟩
      · exact ⟨.inr ⟨i, .inr later, own⟩, stays⟩
    · rintro ⟨member | ⟨i, rfl | later, own⟩, stays⟩
      · exact ⟨.inl member, stays⟩
      · exact ⟨.inl (own ▸ known), stays⟩
      · exact ⟨.inr ⟨i, later, own⟩, stays⟩
  | greet info rest gone control unknown =>
    refine ⟨.inl (.greeting info rest gone), h.calm, fun t => ?_⟩
    rw [← h.expected t]
    simp only [Expected, control, activate, DaemonControl.arriving, DaemonControl.leaving,
      List.mem_cons, Id.mem_insert]
    constructor
    · rintro ⟨(rfl | member) | ⟨i, later, own⟩, stays⟩
      · exact ⟨.inr ⟨info, .inl rfl, rfl⟩, stays⟩
      · exact ⟨.inl member, stays⟩
      · exact ⟨.inr ⟨i, .inr later, own⟩, stays⟩
    · rintro ⟨member | ⟨i, rfl | later, own⟩, stays⟩
      · exact ⟨.inl (.inr member), stays⟩
      · exact ⟨.inl (.inl own.symm), stays⟩
      · exact ⟨.inr ⟨i, later, own⟩, stays⟩
  | watch info rest gone control =>
    refine ⟨.inl (.between rest gone), h.calm, fun t => ?_⟩
    rw [← h.expected t]
    simp [Expected, control, Daemon.watch, DaemonControl.arriving, DaemonControl.leaving]
  | dismiss trace rest control =>
    refine ⟨.inl (.between [] rest), by simpa using h.calm, fun t => ?_⟩
    rw [← h.expected t]
    simp [Expected, control, mem_known_deactivate, DaemonControl.arriving, DaemonControl.leaving,
      and_assoc]
  | finish control =>
    refine ended h.calm fun t => ?_
    rw [← h.expected t]
    simp [Expected, control, DaemonControl.arriving, DaemonControl.leaving]
  | tell => exact h.frame rfl rfl rfl
  | straggle => exact h.frame rfl rfl rfl
  | publish => exact h.frame rfl rfl rfl
  | abandon => exact h.frame rfl rfl rfl

theorem run (h : d.Approaches active) {events : List DaemonEvent} (inside : .turn ∉ events)
    (r : d.run? events = some d') : d'.Approaches active := by
  induction events generalizing d with
  | nil =>
    obtain rfl : d = d' := Option.some.inj r
    exact h
  | cons e rest ih =>
    obtain ⟨m, first, others⟩ := run?_cons_eq_some.mp r
    rw [List.mem_cons, not_or] at inside
    exact ih (h.step first (Ne.symm inside.1)) inside.2 others

end Approaches

/-! The rest of a difference is finite, and each of its parts can be applied at once. -/

/-- How many parts of a difference remain at most, the end of the turn included. -/
def DaemonControl.parts : DaemonControl → Nat
  | .applying arriving leaving => 2 * arriving.length + leaving.length + 1
  | .handling _ arriving leaving => 2 * arriving.length + leaving.length + 2
  | _ => 0

theorem exists_applied (applies : d.control.Applies) : ∃ m, d.Transition .applied m := by
  cases control : d.control with
  | applying arriving leaving =>
    cases arriving with
    | cons info rest =>
      by_cases known : info.id ∈ d.known
      · exact ⟨_, .skip info rest leaving control known⟩
      · exact ⟨_, .greet info rest leaving control known⟩
    | nil =>
      cases leaving with
      | cons trace rest => exact ⟨_, .dismiss trace rest control⟩
      | nil => exact ⟨_, .finish control⟩
  | handling info arriving leaving => exact ⟨_, .watch info arriving leaving control⟩
  | _ =>
    rw [control] at applies
    cases applies

theorem parts_lt_of_applied (t : d.Transition .applied d') :
    DaemonControl.parts d'.control < DaemonControl.parts d.control := by
  cases t with
  | skip _ _ _ control _ =>
    simp only [control, DaemonControl.parts, List.length_cons]
    omega
  | greet _ _ _ control _ =>
    simp only [control, DaemonControl.parts, List.length_cons]
    omega
  | watch _ _ _ control =>
    simp only [control, DaemonControl.parts]
    omega
  | dismiss _ _ control =>
    simp only [control, DaemonControl.parts, List.length_cons]
    omega
  | finish control =>
    rw [control]
    rcases d.finishTurn_control with place | ⟨_, place⟩ <;> rw [place] <;> exact Nat.succ_pos _

/-- The turn can be brought to its end from wherever it is, by nothing but the rest of the
difference. -/
theorem Approaches.turn_ends {active : List TraceId} (h : d.Approaches active) :
    ∃ n d', d.run? (List.replicate n .applied) = some d' ∧ d'.control = .head := by
  generalize size : DaemonControl.parts d.control = k
  induction k using Nat.strongRecOn generalizing d with
  | ind k ih =>
    rcases h.place with applies | head
    · obtain ⟨m, first⟩ := exists_applied applies
      have shorter := parts_lt_of_applied first
      obtain ⟨n, d', others, head⟩ :=
        ih _ (size ▸ shorter) (h.step first (fun a => nomatch a)) rfl
      exact ⟨n + 1, d', run?_cons_eq_some.mpr ⟨m, first, others⟩, head⟩
    · exact ⟨0, d, rfl, head⟩

/-- The exact difference between what a poll was sent with and the active traces leads to these. A
difference that is empty is no news. -/
theorem approaches_of_answer {active known : List TraceId} (polling : d.control = .polling known)
    (asked : known = d.known) {diff : ActiveTraceDiff}
    (arriving : ∀ t, (∃ info ∈ diff.activated, info.id = t) ↔ t ∈ active ∧ t ∉ known)
    (leaving : ∀ t, t ∈ diff.deactivated ↔ t ∈ known ∧ t ∉ active)
    (t : d.Transition (.polled (LongPoller.activeOutcome (some (.ok diff)))) d') :
    d'.Approaches active := by
  subst asked
  by_cases empty : diff.isEmpty
  · have same : ∀ s, s ∈ d.known ↔ s ∈ active := by
      intro s
      have none_arrives := arriving s
      have none_leaves := leaving s
      simp only [ActiveTraceDiff.isEmpty, Bool.and_eq_true, List.isEmpty_iff] at empty
      rw [empty.1] at none_arrives
      rw [empty.2] at none_leaves
      by_cases member : s ∈ d.known <;> simp_all
    simp only [LongPoller.activeOutcome, empty, if_true] at t
    cases t with
    | expire => exact Approaches.ended (by simp [PollState.observe]) same
  · simp only [LongPoller.activeOutcome, empty] at t
    cases t with
    | change =>
      refine ⟨.inl (.between _ _), by simp [PollState.observe], fun s => ?_⟩
      simp only [Expected, DaemonControl.arriving, DaemonControl.leaving, arriving, leaving]
      by_cases member : s ∈ d.known <;> by_cases isActive : s ∈ active <;> simp [member, isActive]

/-- A difference always meets the known traces that its poll was sent with: what changes them
meanwhile leaves the poll. So whatever polls were left, timed out or failed before, an answer that is
the exact difference to the active traces makes these the known ones. The turn of such an answer can
always be brought to its end. -/
theorem known_becomes_active (poll : PollState) (shutdown : Bool) (before : List DaemonEvent)
    (d : Daemon) (known : List TraceId) (run : (start poll shutdown).run? before = some d)
    (polling : d.control = .polling known) :
    known = d.known ∧
    (∀ e d', d.step e = some d' → d'.known = d.known ∨ e = .received ∧ d'.control = .head) ∧
    ∀ (active : List TraceId) (diff : ActiveTraceDiff),
      (∀ t, (∃ info ∈ diff.activated, info.id = t) ↔ t ∈ active ∧ t ∉ known) →
      (∀ t, t ∈ diff.deactivated ↔ t ∈ known ∧ t ∉ active) →
      ∀ rest d', .turn ∉ rest →
        d.run? (.polled (LongPoller.activeOutcome (some (.ok diff))) :: rest) = some d' →
        (d'.control = .head → ∀ t, t ∈ d'.known ↔ t ∈ active) ∧
        ∃ n d'', d'.run? (List.replicate n .applied) = some d'' ∧ d''.control = .head := by
  have asked : known = d.known := asked_of_run run known polling
  refine ⟨asked, ?_, ?_⟩
  · intro e d' stepped
    exact (transition_of_step stepped).known_of_polling polling
  · intro active diff arriving leaving rest d' inside r
    obtain ⟨m, answered, others⟩ := run?_cons_eq_some.mp r
    have approaches : d'.Approaches active :=
      (approaches_of_answer polling asked arriving leaving answered).run inside others
    exact ⟨approaches.known_of_head, approaches.turn_ends⟩

/-- One poll is left for a report, and the next one is answered with a trace named twice. -/
theorem known_becomes_active_after_report :
    let info (n : UInt8) : TraceInfo := ⟨⟨.fill n⟩, ⟨.fill 0⟩, "run", .empty, true, none⟩
    let before : List DaemonEvent :=
      [.turn, .polled (.changed ⟨[info 1, info 2], []⟩), .applied, .applied, .applied, .applied,
        .applied, .turn, .watched ⟨.fill 2⟩, .received, .turn]
    let diff : ActiveTraceDiff := ⟨[info 3, info 3], [⟨.fill 1⟩]⟩
    let answer : DaemonEvent := .polled (LongPoller.activeOutcome (some (.ok diff)))
    ∃ d d', (start .standard false).run? before = some d ∧ d.control = .polling [⟨.fill 1⟩] ∧
      d.run? (answer :: List.replicate 5 .applied) = some d' ∧ d'.control = .head ∧
      ∀ t, t ∈ d'.known ↔ t ∈ [(⟨.fill 3⟩ : TraceId)] := by
  intro info before diff answer
  have asked : ((start .standard false).run? before).map (fun d => d.control) =
      some (.polling [⟨.fill 1⟩]) := by decide +kernel
  obtain ⟨d, run, polling⟩ := Option.map_eq_some_iff.mp asked
  have applied : ((start .standard false).run? (before ++ answer :: List.replicate 5 .applied)).map
      (fun d => d.control) = some .head := by decide +kernel
  rw [run?_append, run, Option.bind_some] at applied
  obtain ⟨d', ended, head⟩ := Option.map_eq_some_iff.mp applied
  have apart : (⟨.fill 3⟩ : TraceId) ≠ ⟨.fill 1⟩ := by decide
  refine ⟨d, d', run, polling, ended, head, ?_⟩
  refine ((known_becomes_active .standard false before d _ run polling).2.2 [⟨.fill 3⟩] diff
    (fun t => ?_) (fun t => ?_) (List.replicate 5 .applied) d' (by decide) ended).1 head
  · constructor
    · rintro ⟨i, named, rfl⟩
      obtain rfl : i = info 3 := by simpa [diff] using named
      exact ⟨List.mem_singleton_self _, fun other => apart (List.mem_singleton.mp other)⟩
    · rintro ⟨member, -⟩
      exact ⟨info 3, List.mem_cons_self, (List.mem_singleton.mp member).symm⟩
  · constructor
    · intro ends
      obtain rfl := List.mem_singleton.mp ends
      exact ⟨List.mem_singleton_self _, fun other => apart (List.mem_singleton.mp other).symm⟩
    · exact fun member => member.1

end Daemon

end TrafficTrace
