import TrafficTrace.Collector.Chain

/-! Events fed to a chain: all at once, or as they arrive until their source ends. While a source is
quiet a clock ticks, so that no batch waits for the next event. When an event and a tick fall
together the event goes first, and so does the end of the source. -/
namespace TrafficTrace.Feed

variable {σ : Type}

/-- How feeding ended: the error that stopped it, how many events were taken, and the chain. -/
structure Outcome (σ : Type) where
  result : Except CollectorError Nat
  /-- The numbers that were reported as events were taken. -/
  progress : List Nat
  collector : Collector
  state : σ

/-- Hands over events in order until one fails. -/
def all (b : Backend σ) (c : Collector) (s : σ) (fed : Nat) : List (Moment × Event) → Outcome σ
  | [] => ⟨.ok fed, [], c, s⟩
  | (m, e) :: rest =>
    match c.process b m e s with
    | (.ok _, c, s) =>
      let o := all b c s (fed + 1) rest
      { o with progress := (fed + 1) :: o.progress }
    | (.error fault, c, s) => ⟨.error fault, [], c, s⟩

/-- What happens while a source is open. -/
inductive Occurrence where
  | event (e : Event)
  | tick
deriving DecidableEq

/-- A clock that ticks at zero and after every `period`. A tick rings at the next whole multiple of
`grain`. -/
structure Ticker where
  period : Nat
  grain : Nat
deriving DecidableEq

namespace Ticker

/-- The clock for a source that is looked at after every `tick`, at most once a millisecond. -/
def every (tick : Duration) (grain : Nat) : Ticker := ⟨(max tick (.ofMillis 1)).nanos, grain⟩

/-- The least multiple of the grain from `t` on. -/
def roundUp (grain t : Nat) : Nat := (t + grain - 1) / grain * grain

def ringAt (k : Ticker) (n : Nat) : Instant := roundUp k.grain (n * k.period)

/-- How many ticks ring before `t`. -/
def countBefore (k : Ticker) (t : Instant) : Nat :=
  if t = 0 then 0 else ((t - 1) / k.grain * k.grain) / k.period + 1

/-- The ticks from number `first` on that ring before `t`. -/
def between (k : Ticker) (first : Nat) (t : Instant) : List (Instant × Occurrence) :=
  (List.range' first (k.countBefore t - first)).map fun n => (k.ringAt n, .tick)

end Ticker

/-- Everything that happens until the source ends, with its time. -/
def schedule (k : Ticker) (close : Instant) (first : Nat) :
    List (Instant × Event) → List (Instant × Occurrence)
  | [] => k.between first close
  | (t, e) :: rest =>
    k.between first t ++ (t, .event e) :: schedule k close (max first (k.countBefore t)) rest

/-- Feeds a chain from a schedule. `fresh` gives the random bytes for each event, and `wake` tells
the backend's state the time of each occurrence. -/
def occurrences (b : Backend σ) (fresh : Nat → Uuid) (wake : Instant → σ → σ) (c : Collector)
    (s : σ) (fed : Nat) : List (Instant × Occurrence) → Outcome σ
  | [] => ⟨.ok fed, [], c, s⟩
  | (now, .event e) :: rest =>
    match c.process b ⟨now, fresh fed⟩ e (wake now s) with
    | (.ok _, c, s) =>
      let o := occurrences b fresh wake c s (fed + 1) rest
      { o with progress := (fed + 1) :: o.progress }
    | (.error fault, c, s) => ⟨.error fault, [], c, s⟩
  | (now, .tick) :: rest =>
    match c.flushIfDue b now (wake now s) with
    | (.ok _, c, s) => occurrences b fresh wake c s fed rest
    | (.error fault, c, s) => ⟨.error fault, [], c, s⟩

end TrafficTrace.Feed
