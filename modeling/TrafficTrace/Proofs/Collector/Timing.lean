import TrafficTrace.Backend.Script
import TrafficTrace.Proofs.Collector.Ledger
import TrafficTrace.Proofs.Collector.Requests
import TrafficTrace.Proofs.Collector.Schedule

/-!
# How long an event waits

A batch collector that is fed on time holds no batch for long: the tick after the first event of
a batch has come of age sends it. What carries this is a bound on the ticks that have rung: all of
them rang before the buffered events were of age. So the next one rings less than a pause after that,
and nothing can come later than the next tick.
-/
namespace TrafficTrace

open Backend

variable {σ : Type} {b : Backend σ}

/-- Whatever is appended is accepted. -/
def Backend.AcceptsAll (b : Backend σ) : Prop :=
  ∀ service trace batch s, ∃ answer, (b.appendEvents service trace batch s).1 = .ok answer

theorem BatchCollector.flush_accepted (accepts : b.AcceptsAll) (c : BatchCollector)
    (w : Stamped σ) (filled : c.buffer ≠ []) :
    ∃ state, flush b.stamped c w = (.ok (), c.emptied.accepted c.buffer.length,
      ⟨w.now, state, w.calls ++ [⟨w.now, .appendEvents c.service c.trace c.batch, none⟩]⟩) := by
  obtain ⟨answer, accepted⟩ := accepts c.service c.trace c.batch w.state
  have busy : c.buffer.isEmpty = false := by simpa using filled
  refine ⟨(b.appendEvents c.service c.trace c.batch w.state).2, ?_⟩
  simp [flush, busy, submit, stamped_appendEvents, accepted, Stamped.faultOf]

namespace Feed

/-- The arrivals as they are buffered, each with the identifier it gets. -/
def identified (fresh : Nat → Uuid) (fed : Nat) : List (Instant × Event) → List (Instant × Event)
  | [] => []
  | (t, e) :: rest => (t, e.identified (fresh fed)) :: identified fresh (fed + 1) rest

/-- What the record of a call says of its events, which came at these times: the batch was full or
its first event was old enough, and none of them had waited for its age and a pause. -/
structure Submission (service : ServiceId) (trace : TraceId) (policy : BatchPolicy) (pause : Nat)
    (r : CallRecord) (group : List (Instant × Event)) : Prop where
  call : ∃ batch, r.call = .appendEvents service trace batch ∧ batch.events = group.map Prod.snd
  accepted : r.fault = none
  due : group.length = policy.maxSize ∨
    ∃ q, group.head? = some q ∧ q.1 + policy.maxAge.nanos ≤ r.time
  timely : ∀ q ∈ group, q.1 ≤ r.time ∧ r.time < q.1 + policy.maxAge.nanos + pause

/-- The collector buffers these events, which came at these times. -/
structure Holds (c : BatchCollector) (now : Instant) (waiting : List (Instant × Event)) : Prop where
  buffer : c.buffer = waiting.map Prod.snd
  oldest : c.oldest = waiting.head?.map Prod.fst
  first : ∀ t ∈ c.oldest, ∀ q ∈ waiting, t ≤ q.1
  past : ∀ q ∈ waiting, q.1 ≤ now

theorem Holds.push {c : BatchCollector} {now t : Instant} {waiting : List (Instant × Event)}
    (h : Holds c now waiting) (later : now ≤ t) (e : Event) :
    Holds (c.push t e) t (waiting ++ [(t, e)]) := by
  cases waiting with
  | nil =>
    have empty : c.buffer = [] := h.buffer
    constructor
    · simp [BatchCollector.push, empty]
    · simp [BatchCollector.push, empty]
    · simp [BatchCollector.push, empty]
    · simp
  | cons q rest =>
    have busy : c.buffer.isEmpty = false := by simp [h.buffer]
    have oldest : c.oldest = some q.1 := h.oldest
    have past : q.1 ≤ t := Nat.le_trans (h.past q List.mem_cons_self) later
    constructor
    · simp [BatchCollector.push, h.buffer]
    · simp [BatchCollector.push, busy, oldest]
    · intro u given x held
      rcases List.mem_append.mp held with before | new
      · exact h.first u (by simpa [BatchCollector.push, busy] using given) x before
      · obtain rfl := List.mem_singleton.mp new
        have same : u = q.1 := by simpa [BatchCollector.push, busy, oldest, eq_comm] using given
        exact same ▸ past
    · intro x held
      rcases List.mem_append.mp held with before | new
      · exact Nat.le_trans (h.past x before) later
      · exact Nat.le_of_eq (congrArg Prod.fst (List.mem_singleton.mp new))

variable {k : Ticker} {service : ServiceId} {trace : TraceId} {policy : BatchPolicy}
  {next : Nat} {now : Instant} {c : BatchCollector} {calls : List CallRecord}
  {groups : List (List (Instant × Event))} {waiting : List (Instant × Event)}

/-- Where a feed stands that has had the ticks before `next`: the calls are submissions of `groups`,
and no buffered event has waited for too long. -/
structure Keeps (k : Ticker) (service : ServiceId) (trace : TraceId) (policy : BatchPolicy)
    (next : Nat) (now : Instant) (c : BatchCollector) (calls : List CallRecord)
    (groups : List (List (Instant × Event))) (waiting : List (Instant × Event)) : Prop where
  serves : c.service = service
  fills : c.trace = trace
  follows : c.policy = policy
  isOpen : c.phase = .open_
  capacity : 0 < policy.maxSize
  fits : waiting.length ≤ policy.maxSize
  holds : Holds c now waiting
  rung : ∀ n < next, k.ringAt n ≤ now
  prompt : ∀ q ∈ waiting, now < q.1 + policy.maxAge.nanos + k.pause
  sent : List.Forall₂ (Submission service trace policy k.pause) calls groups

/-- Between two occurrences nothing is due. -/
structure Rests (k : Ticker) (service : ServiceId) (trace : TraceId) (policy : BatchPolicy)
    (next : Nat) (now : Instant) (c : BatchCollector) (calls : List CallRecord)
    (groups : List (List (Instant × Event))) (waiting : List (Instant × Event)) : Prop
    extends Keeps k service trace policy next now c calls groups waiting where
  idle : c.isDue now = false

theorem Keeps.submission (h : Keeps k service trace policy next now c calls groups waiting)
    (due : c.isDue now = true) :
    Submission service trace policy k.pause
      ⟨now, .appendEvents c.service c.trace c.batch, none⟩ waiting where
  call := ⟨c.batch, by rw [h.serves, h.fills], h.holds.buffer⟩
  accepted := rfl
  due := by
    simp only [BatchCollector.isDue, Bool.or_eq_true, decide_eq_true_eq, h.follows,
      h.holds.buffer, List.length_map, h.holds.oldest] at due
    rcases due with full | old
    · exact .inl (Nat.le_antisymm h.fits full)
    -- a buffer with room is due for its first event only
    · cases waiting with
      | nil => cases old
      | cons q rest =>
        refine .inr ⟨q, rfl, ?_⟩
        have past := h.holds.past q List.mem_cons_self
        have aged : policy.maxAge.nanos ≤ now - q.1 := by simpa [Instant.elapsed] using old
        exact Nat.add_le_of_le_sub' past aged
  timely := fun q held => ⟨h.holds.past q held, h.prompt q held⟩

/-- Nothing is due of a buffer that has just been emptied. -/
theorem Keeps.flushed (h : Keeps k service trace policy next now c calls groups waiting)
    (due : c.isDue now = true) (n : Nat) :
    Rests k service trace policy next now (c.emptied.accepted n)
      (calls ++ [⟨now, .appendEvents c.service c.trace c.batch, none⟩])
      (groups ++ [waiting]) [] where
  serves := h.serves
  fills := h.fills
  follows := h.follows
  isOpen := h.isOpen
  capacity := h.capacity
  fits := Nat.zero_le _
  holds := ⟨rfl, rfl, by simp, by simp⟩
  rung := h.rung
  prompt := by simp
  sent := List.rel_append h.sent (.cons (h.submission due) .nil)
  idle := by
    simpa [BatchCollector.isDue, BatchCollector.accepted, BatchCollector.emptied, h.follows]
      using Nat.ne_of_gt h.capacity

theorem Rests.room (h : Rests k service trace policy next now c calls groups waiting) :
    waiting.length < policy.maxSize := by
  have room := BatchCollector.lt_of_not_isDue (Bool.not_eq_true _ ▸ h.idle)
  rwa [h.holds.buffer, List.length_map, h.follows] at room

theorem Rests.young (h : Rests k service trace policy next now c calls groups waiting) :
    ∀ t ∈ c.oldest, now < t + policy.maxAge.nanos := by
  intro t given
  have oldest : c.oldest = some t := given
  have idle := h.idle
  simp only [BatchCollector.isDue, Bool.or_eq_false_iff, oldest, h.follows, Instant.elapsed,
    decide_eq_false_iff_not] at idle
  exact Nat.lt_of_not_le fun aged => idle.2 (Nat.le_sub_of_add_le' aged)

/-- The next tick is soon enough for all that is buffered. -/
theorem Rests.prompt_next (h : Rests k service trace policy next now c calls groups waiting)
    (runs : k.Runs) : ∀ q ∈ waiting, k.ringAt next < q.1 + policy.maxAge.nanos + k.pause := by
  intro q held
  cases waiting with
  | nil => exact absurd held List.not_mem_nil
  | cons x rest =>
    have oldest : c.oldest = some x.1 := h.holds.oldest
    have before : ∀ n < next, k.ringAt n < x.1 + policy.maxAge.nanos := fun n lt =>
      Nat.lt_of_le_of_lt (h.rung n lt) (h.young x.1 oldest)
    have first : x.1 ≤ q.1 := h.holds.first x.1 oldest q held
    calc k.ringAt next < x.1 + policy.maxAge.nanos + k.pause := runs.ringAt_lt before
      _ ≤ q.1 + policy.maxAge.nanos + k.pause :=
        Nat.add_le_add_right (Nat.add_le_add_right first _) _

theorem Rests.event (h : Rests k service trace policy next now c calls groups waiting)
    (runs : k.Runs) {t : Instant} (later : now ≤ t) (first : t ≤ k.ringAt next) (e : Event) :
    Keeps k service trace policy next t (c.push t e) calls groups (waiting ++ [(t, e)]) where
  serves := h.serves
  fills := h.fills
  follows := h.follows
  isOpen := h.isOpen
  capacity := h.capacity
  fits := by simpa using Nat.succ_le_of_lt h.room
  holds := h.holds.push later e
  rung := fun n lt => Nat.le_trans (h.rung n lt) later
  prompt := by
    intro q held
    rcases List.mem_append.mp held with before | new
    · exact Nat.lt_of_le_of_lt first (h.prompt_next runs q before)
    -- with an age of zero the pause alone is the bound
    · obtain rfl := List.mem_singleton.mp new
      rw [Nat.add_assoc]
      exact Nat.lt_add_of_pos_right (Nat.add_pos_right _ runs.pause_pos)
  sent := h.sent

theorem Rests.tick (h : Rests k service trace policy next now c calls groups waiting)
    (runs : k.Runs) (later : now ≤ k.ringAt next) :
    Keeps k service trace policy (next + 1) (k.ringAt next) c calls groups waiting :=
  { h.toKeeps with
    holds := { h.holds with past := fun q held => Nat.le_trans (h.holds.past q held) later }
    rung := fun _ lt => runs.ringAt_mono (Nat.le_of_lt_succ lt)
    prompt := h.prompt_next runs }

/-- Looking whether the buffer is due moves what is buffered into a batch or leaves it. -/
theorem Keeps.attended (accepts : b.AcceptsAll) {w : Stamped σ}
    (h : Keeps k service trace policy next now c w.calls groups waiting) :
    ∃ c' w' groups' waiting', c.flushIfDue b.stamped now (w.wake now) = (.ok (), c', w') ∧
      groups'.flatten ++ waiting' = groups.flatten ++ waiting ∧
      Rests k service trace policy next now c' w'.calls groups' waiting' := by
  have look : c.flushIfDue b.stamped now (w.wake now) =
      if c.isDue now then c.flush b.stamped (w.wake now) else (.ok (), c, w.wake now) := by
    rw [BatchCollector.flushIfDue, h.isOpen]
  cases due : c.isDue now with
  | false => exact ⟨c, w.wake now, groups, waiting, by rw [look, due]; rfl, rfl, h, due⟩
  | true =>
    have filled : c.buffer ≠ [] := by
      intro empty
      obtain rfl : waiting = [] := by simpa [h.holds.buffer] using empty
      have full : policy.maxSize = 0 := by
        simpa [BatchCollector.isDue, empty, h.holds.oldest, h.follows] using due
      exact absurd full (Nat.ne_of_gt h.capacity)
    obtain ⟨state, flushed⟩ := c.flush_accepted accepts (w.wake now) filled
    refine ⟨_, _, groups ++ [waiting], [], by rw [look, due]; exact flushed, ?_,
      h.flushed due c.buffer.length⟩
    simp

/-- Feeding on time: every event is taken and counted, and no buffered event outlasts the source by
its age and a pause. -/
theorem Rests.run (accepts : b.AcceptsAll) (runs : k.Runs) (fresh : Nat → Uuid)
    {close : Instant} {arrivals : List (Instant × Event)} {occ : List (Instant × Occurrence)}
    (paced : Paced k close next now arrivals occ) {w : Stamped σ} (fed : Nat)
    (h : Rests k service trace policy next now c w.calls groups waiting) :
    let o := occurrences b.stamped fresh Stamped.wake (.batches c) w fed occ
    o.result = .ok (fed + arrivals.length) ∧ o.progress = List.range' (fed + 1) arrivals.length ∧
      ∃ groups' late,
        groups.flatten ++ waiting ++ identified fresh fed arrivals = groups'.flatten ++ late ∧
        List.Forall₂ (Submission service trace policy k.pause) o.state.calls groups' ∧
        ∀ q ∈ late, close < q.1 + policy.maxAge.nanos + k.pause := by
  -- along the schedule; at the end the first tick that is left out bounds the time of closing
  induction paced generalizing c w groups waiting fed with
  | ended closed =>
    refine ⟨rfl, rfl, groups, waiting, by simp [identified], h.sent, ?_⟩
    intro q held
    exact Nat.lt_of_le_of_lt closed (h.prompt_next runs q held)
  | @event next now t e arrivals rest later first tail ih =>
    obtain ⟨c', w', groups', waiting', done, same, kept⟩ :=
      (h.event runs later first (e.identified (fresh fed))).attended accepts
    have taken : (Collector.batches c).process b.stamped ⟨t, fresh fed⟩ e (w.wake t) =
        (.ok .forwarded, .batches c', w') := by
      rw [Collector.process, BatchCollector.process_of_open h.isOpen, done]
      rfl
    obtain ⟨result, progress, groups'', late, all, sent, prompt⟩ := ih (fed + 1) kept
    simp only [occurrences, taken]
    refine ⟨?_, ?_, groups'', late, ?_, sent, prompt⟩
    · rw [result, List.length_cons, Nat.add_assoc, Nat.add_comm 1]
    · rw [progress, List.length_cons, List.range'_succ]
    · rw [← all, same, identified]
      simp
  | @tick next now arrivals rest later tail ih =>
    obtain ⟨c', w', groups', waiting', done, same, kept⟩ := (h.tick runs later).attended accepts
    have looked : (Collector.batches c).flushIfDue b.stamped (k.ringAt next)
        (w.wake (k.ringAt next)) = (.ok (), .batches c', w') := by
      rw [Collector.flushIfDue, done]
    simp only [occurrences, looked, ← same]
    exact ih fed kept

theorem rests_start (k : Ticker) (service : ServiceId) (trace : TraceId) (client : Uuid)
    (policy : BatchPolicy) :
    Rests k service trace policy.normal 0 0 (.start service trace client policy) [] [] [] where
  serves := rfl
  fills := rfl
  follows := rfl
  isOpen := rfl
  capacity := BatchCollector.capacity_normal policy
  fits := Nat.zero_le _
  holds := ⟨rfl, rfl, by simp, by simp⟩
  rung := by simp
  prompt := by simp
  sent := .nil
  idle := by
    simpa [BatchCollector.isDue, BatchCollector.start]
      using Nat.ne_of_gt (BatchCollector.capacity_normal policy)

/-- With the tick that goes with a policy, the age and a tick are half as much again as the age. -/
theorem age_add_tickInterval_le (policy : BatchPolicy) (old : 2000000 ≤ policy.maxAge.nanos) :
    2 * (policy.maxAge.nanos + policy.tickInterval.nanos) ≤ 3 * policy.maxAge.nanos := by
  have least : (Duration.ofMillis 1).nanos = 1000000 := rfl
  have half : (policy.maxAge.div 2).nanos = policy.maxAge.nanos / 2 := rfl
  rw [BatchPolicy.tickInterval, Duration.nanos_max, half, least]
  omega

/-- A feed from a source that is open until `close`, with a tick of a millisecond or more and a
backend that accepts everything. The ticks fall at the multiples of the period. All events are taken
and reported in turn. The calls split the arrivals in their order: each is for a batch that is full
or whose first event is old enough, and it comes less than the age and a tick after any event of its
batch. Events are left over only when the source closes before that time. The tick that goes with the
policy makes it one and a half times the age at most, if that is two milliseconds or more. -/
theorem fed_in_time (accepts : b.AcceptsAll) (service : ServiceId) (trace : TraceId)
    (client : Uuid) (policy : BatchPolicy) (fresh : Nat → Uuid) (s : σ) {tick : Duration}
    (slow : .ofMillis 1 ≤ tick) {close : Instant} {arrivals : List (Instant × Event)}
    (sorted : arrivals.Pairwise fun x y => x.1 ≤ y.1) (timely : ∀ q ∈ arrivals, q.1 ≤ close) :
    let age := policy.maxAge.nanos
    let o := occurrences b.stamped fresh Stamped.wake
      (.batches (.start service trace client policy)) (.start s) 0
      (schedule (.every tick 1) close 0 arrivals)
    (∀ n, (Ticker.every tick 1).ringAt n = n * tick.nanos) ∧
      o.result = .ok arrivals.length ∧ o.progress = List.range' 1 arrivals.length ∧
      (∃ groups late, identified fresh 0 arrivals = groups.flatten ++ late ∧
        List.Forall₂ (Submission service trace policy.normal tick.nanos) o.state.calls groups ∧
        ∀ q ∈ late, close < q.1 + age + tick.nanos) ∧
      (tick = policy.tickInterval → 2000000 ≤ age → 2 * (age + tick.nanos) ≤ 3 * age) := by
  intro age o
  have runs : (Ticker.every tick 1).Runs := Ticker.runs_every tick Nat.one_pos
  have paced :
      Paced (.every tick 1) close 0 0 arrivals (schedule (.every tick 1) close 0 arrivals) :=
    paced_schedule runs sorted (fun _ _ => Nat.zero_le _) timely (Nat.zero_le _) (Nat.zero_le _)
      (by simp)
  obtain ⟨result, progress, groups, late, all, sent, prompt⟩ :=
    Rests.run accepts runs fresh paced 0 (w := .start s)
      (rests_start (.every tick 1) service trace client policy)
  have ticker : Ticker.every tick 1 = ⟨tick.nanos, 1⟩ := Ticker.every_of_le slow 1
  have pause : (Ticker.every tick 1).pause = tick.nanos := by rw [ticker, Ticker.pause_fine]
  rw [pause] at sent prompt
  rw [Nat.zero_add] at result progress
  refine ⟨fun n => ?_, result, progress, ⟨groups, late, all, sent, prompt⟩, ?_⟩
  · rw [ticker, Ticker.ringAt_fine]
  · rintro rfl old
    exact age_add_tickInterval_le policy old

/-- Batches of two events or four milliseconds. The first is full at once and the second at the tick
that would have sent it for its age; the third goes for its age, and the last event is left over. -/
theorem fed_in_time_between_ticks :
    let b : Backend Script := { scripted with
      appendEvents := fun _ _ batch s => (.ok ⟨batch.events.length⟩, s) }
    let s : Script := ⟨.ok [], .ok [], [], [], 0, fun _ => .nil⟩
    let policy : BatchPolicy := ⟨2, .ofMillis 4⟩
    let tick := policy.tickInterval
    let fresh := fun n => Uuid.fill n.toUInt8
    let e (path : String) := Event.request "GET" "shop.example" path .epoch
    let arrivals := [(0, e "/a"), (0, e "/b"), (1000000, e "/c"), (6000000, e "/d"),
      (6000000, e "/e"), (11000000, e "/f")]
    let close := 13000000
    let o := occurrences b.stamped fresh Stamped.wake
      (.batches (.start ⟨.fill 1⟩ ⟨.fill 2⟩ .nil policy)) (.start s) 0
      (schedule (.every tick 1) close 0 arrivals)
    b.AcceptsAll ∧ .ofMillis 1 ≤ tick ∧ arrivals.Pairwise (fun x y => x.1 ≤ y.1) ∧
      (∀ q ∈ arrivals, q.1 ≤ close) ∧ 2000000 ≤ policy.maxAge.nanos ∧
      o.state.calls.map (·.time) = [0, 6000000, 10000000] ∧
      (∀ n, (Ticker.every tick 1).ringAt n = n * tick.nanos) ∧
      o.result = .ok 6 ∧ o.progress = [1, 2, 3, 4, 5, 6] ∧
      (∃ groups late, identified fresh 0 arrivals = groups.flatten ++ late ∧
        List.Forall₂ (Submission ⟨.fill 1⟩ ⟨.fill 2⟩ policy.normal tick.nanos) o.state.calls
          groups ∧
        ∀ q ∈ late, close < q.1 + policy.maxAge.nanos + tick.nanos) ∧
      2 * (policy.maxAge.nanos + tick.nanos) ≤ 3 * policy.maxAge.nanos := by
  intro b s policy tick fresh e arrivals close o
  have accepts : b.AcceptsAll := fun _ _ _ _ => ⟨_, rfl⟩
  have slow : .ofMillis 1 ≤ tick := by decide
  have sorted : arrivals.Pairwise fun x y => x.1 ≤ y.1 := by simp [arrivals]
  have timely : ∀ q ∈ arrivals, q.1 ≤ close := by simp [arrivals, close]
  have old : 2000000 ≤ policy.maxAge.nanos := by decide
  have times : o.state.calls.map (·.time) = [0, 6000000, 10000000] := by decide +kernel
  obtain ⟨multiples, result, progress, submitted, soon⟩ :=
    fed_in_time accepts ⟨.fill 1⟩ ⟨.fill 2⟩ .nil policy fresh s slow sorted timely
  exact ⟨accepts, slow, sorted, timely, old, times, multiples, result, progress, submitted,
    soon rfl old⟩

end Feed

end TrafficTrace
