import TrafficTrace.Collector.Batch
import TrafficTrace.Exclusion
import TrafficTrace.Tracker

/-! Chains of collectors. Every stage but the last hands on what it does not drop, and passes the
requests to flush and to close on to the next. -/
namespace TrafficTrace

inductive Collector where
  /-- Keeps every event. -/
  | memory (events : List Event) (closed : Bool)
  | batches (c : BatchCollector)
  | exclusion (rules : ExclusionRules) (next : Collector)
  /-- Drops the events of trackers unless they are wanted. -/
  | trackers (included : Bool) (next : Collector)
  /-- Counts what the rest of the chain makes of each event. -/
  | counting (counts : PacketCounts) (next : Collector)

/-- What can be asked of a chain. -/
inductive CollectorAction where
  | process (e : Event)
  | flushIfDue
  | close
deriving DecidableEq

namespace Collector

/-- The names of the stages, the last of the chain last. -/
def describe : Collector → List String
  | memory _ _ => ["MemoryCollector"]
  | batches _ => ["BackendCollector"]
  | exclusion _ next => "ExclusionFilter" :: next.describe
  | trackers _ next => "TrackerFilter" :: next.describe
  | counting _ next => "PacketCountCollector" :: next.describe

/-- The counts of the counting stages from the head of the chain on. -/
def counts : Collector → List PacketCounts
  | memory _ _ | batches _ => []
  | exclusion _ next | trackers _ next => next.counts
  | counting c next => c :: next.counts

/-- The end of the chain. -/
def last : Collector → Collector
  | memory events closed => memory events closed
  | batches c => batches c
  | exclusion _ next | trackers _ next | counting _ next => next.last

/-- How many events and how many batches the backend has accepted. -/
def accepted : Collector → Nat × Nat
  | memory _ _ => (0, 0)
  | batches c => (c.submitted, c.batches)
  | exclusion _ next | trackers _ next | counting _ next => next.accepted

def isTracker (e : Event) : Bool := Tracker.isTrackerHost e.hostName

variable {σ : Type}

/-- Hands an event to a chain. An event whose processing fails is not counted. -/
def process (b : Backend σ) (m : Moment) (e : Event) :
    Collector → σ → Except CollectorError Disposition × Collector × σ
  | memory events closed, s =>
    if closed then (.error .closed, memory events closed, s)
    else (.ok .forwarded, memory (events ++ [e]) closed, s)
  | batches c, s =>
    let (r, c, s) := c.process b m e s
    (r, batches c, s)
  | exclusion rules next, s =>
    if rules.excludes e then (.ok .dropped, exclusion rules next, s)
    else
      let (r, next, s) := next.process b m e s
      (r, exclusion rules next, s)
  | trackers included next, s =>
    if !included && isTracker e then (.ok .dropped, trackers included next, s)
    else
      let (r, next, s) := next.process b m e s
      (r, trackers included next, s)
  | counting counts next, s =>
    match next.process b m e s with
    | (.ok outcome, next, s) =>
      (.ok outcome, counting (counts.record e.direction e.kind outcome) next, s)
    | (.error fault, next, s) => (.error fault, counting counts next, s)

def flushIfDue (b : Backend σ) (now : Instant) :
    Collector → σ → Except CollectorError Unit × Collector × σ
  | memory events closed, s => (.ok (), memory events closed, s)
  | batches c, s =>
    let (r, c, s) := c.flushIfDue b now s
    (r, batches c, s)
  | exclusion rules next, s =>
    let (r, next, s) := next.flushIfDue b now s
    (r, exclusion rules next, s)
  | trackers included next, s =>
    let (r, next, s) := next.flushIfDue b now s
    (r, trackers included next, s)
  | counting counts next, s =>
    let (r, next, s) := next.flushIfDue b now s
    (r, counting counts next, s)

def close (b : Backend σ) : Collector → σ → Except CollectorError Unit × Collector × σ
  | memory events _, s => (.ok (), memory events true, s)
  | batches c, s =>
    let (r, c, s) := c.close b s
    (r, batches c, s)
  | exclusion rules next, s =>
    let (r, next, s) := next.close b s
    (r, exclusion rules next, s)
  | trackers included next, s =>
    let (r, next, s) := next.close b s
    (r, trackers included next, s)
  | counting counts next, s =>
    let (r, next, s) := next.close b s
    (r, counting counts next, s)

/-- One request to a chain; an event yields its disposition. -/
def step (b : Backend σ) (m : Moment) (c : Collector) (s : σ) :
    CollectorAction → Except CollectorError (Option Disposition) × Collector × σ
  | .process e =>
    let (r, c, s) := c.process b m e s
    (r.map some, c, s)
  | .flushIfDue =>
    let (r, c, s) := c.flushIfDue b m.now s
    (r.map fun _ => none, c, s)
  | .close =>
    let (r, c, s) := c.close b s
    (r.map fun _ => none, c, s)

/-- Requests in their order, whether they fail or not. -/
def run (b : Backend σ) (c : Collector) (s : σ) :
    List (Moment × CollectorAction) → Collector × σ
  | [] => (c, s)
  | (m, a) :: rest =>
    let (_, c, s) := step b m c s a
    run b c s rest

end Collector

end TrafficTrace
