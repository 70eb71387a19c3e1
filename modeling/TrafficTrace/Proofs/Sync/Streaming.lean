import TrafficTrace.Collector.Channel
import TrafficTrace.Proofs.Resolve.History
import TrafficTrace.Sync.Upload

/-!
# Streams and batches

A channel that is closed and still holds its events gives them up one a turn, in their order, and
the ticker is not looked at before the end. So feeding from it is feeding the events at hand, and
both uploads are one.
-/
namespace TrafficTrace

open Backend

variable {σ : Type}

/-- A closed channel hands on what it holds, whether the ticker has rung or not. -/
theorem Channel.occurrences_closed (events : List Event) (turns : List Channel.Turn) :
    Channel.occurrences ⟨events, true⟩ turns =
      (turns.zip events).map fun q => (q.1.now, .event q.2) := by
  induction turns generalizing events with
  | nil => rfl
  | cons t rest ih =>
    cases events with
    | nil => rfl
    | cons e more =>
      have first : Channel.occurrences ⟨e :: more, true⟩ (t :: rest) =
          (t.now, .event e) :: Channel.occurrences ⟨more, true⟩ rest := rfl
      rw [first, ih, List.zip_cons_cons, List.map_cons]

/-- With a turn for each event, the events meet the turns one by one. -/
theorem Channel.occurrences_drained (events : List Event) (turn : Nat → Channel.Turn)
    (extra : Nat) :
    Channel.occurrences ⟨events, true⟩ ((List.range (events.length + extra)).map turn) =
      (events.mapIdx fun i e => ((turn i).now, e)).map fun q => (q.1, .event q.2) := by
  rw [occurrences_closed]
  apply List.ext_getElem
  · simp
  · intro i _ _
    simp

namespace Feed

/-- All that is sent before time begins to pass comes before the first tick. -/
theorem schedule_at_once (k : Ticker) (events : List Event) :
    schedule k 0 0 (events.map fun e => (0, e)) =
      (events.mapIdx fun _ e => ((0 : Instant), e)).map fun q => (q.1, .event q.2) := by
  have quiet : k.between 0 0 = [] := rfl
  induction events with
  | nil => exact quiet
  | cons e rest ih =>
    rw [List.map_cons, schedule, quiet, List.nil_append, List.mapIdx_cons, List.map_cons]
    exact congrArg _ ih

/-- Events without a tick between them are fed as events at hand. -/
theorem occurrences_events (b : Backend σ) (fresh : Nat → Uuid) (c : Collector) (s : σ)
    (fed : Nat) (timed : List (Instant × Event)) :
    occurrences b fresh (fun _ s => s) c s fed (timed.map fun q => (q.1, .event q.2)) =
      all b c s fed (timed.mapIdx fun i q => (⟨q.1, fresh (fed + i)⟩, q.2)) := by
  induction timed generalizing c s fed with
  | nil => rfl
  | cons q rest ih =>
    obtain ⟨now, e⟩ := q
    have later : (fun i (q : Instant × Event) =>
        ((⟨q.1, fresh (fed + (i + 1))⟩ : Moment), q.2)) =
        fun i q => (⟨q.1, fresh (fed + 1 + i)⟩, q.2) := by
      funext i q
      rw [Nat.add_comm i 1, Nat.add_assoc]
    rw [List.map_cons, List.mapIdx_cons, occurrences, all, Nat.add_zero, later]
    rcases c.process b ⟨now, fresh fed⟩ e s with ⟨fault | d, c', s'⟩
    · rfl
    · simp only [ih]

end Feed

namespace Upload

/-- An upload from a channel that holds all the events and is closed, and one of the same events at
hand: they end alike, report the same progress and leave the same memory, and the backend has had
the same exchanges and is in the same state. The clock may show anything at each turn, and the
ticker may have rung or not; the same goes for a feed in which everything comes at time zero. -/
theorem stream_eq_batch (b : Backend σ) (setting : UploadSetting) (request : UploadRequest)
    (fresh : Nat → Uuid) (events : List Event) (r : Resolver) (s : σ × List AnsweredCall) :
    let stream := fun occurrences =>
      live b.transcribed setting request fresh (fun _ s => s) occurrences r s
    let batch := fun (clock : Nat → Instant) => all b.transcribed setting request
      (events.mapIdx fun i e => (⟨clock i, fresh i⟩, e)) r s
    (∀ (turn : Nat → Channel.Turn) (extra : Nat),
      stream (Channel.occurrences ⟨events, true⟩
        ((List.range (events.length + extra)).map turn)) = batch fun i => (turn i).now) ∧
    ∀ k : Feed.Ticker,
      stream (Feed.schedule k 0 0 (events.map fun e => (0, e))) = batch fun _ => 0 := by
  intro stream batch
  have agree : ∀ clock : Nat → Instant,
      stream ((events.mapIdx fun i e => (clock i, e)).map fun q => (q.1, .event q.2)) =
        batch clock := by
    intro clock
    have fed : (fun c s => Feed.occurrences b.transcribed fresh (fun _ s => s) c s 0
        ((events.mapIdx fun i e => (clock i, e)).map fun q => (q.1, .event q.2))) =
        fun c s => Feed.all b.transcribed c s 0
          (events.mapIdx fun i e => (⟨clock i, fresh i⟩, e)) := by
      funext c s
      rw [Feed.occurrences_events, List.mapIdx_mapIdx]
      simp only [Nat.zero_add, Function.comp_def]
    simp only [stream, batch, live, all, fed]
  constructor
  · intro turn extra
    rw [Channel.occurrences_drained]
    exact agree fun i => (turn i).now
  · intro k
    rw [Feed.schedule_at_once]
    exact agree fun _ => 0

end Upload

end TrafficTrace
