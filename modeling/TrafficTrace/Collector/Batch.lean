import TrafficTrace.Backend
import TrafficTrace.Collector.BatchPolicy
import TrafficTrace.Collector.Counts
import TrafficTrace.Collector.Error
import TrafficTrace.Digest.Sha256
import TrafficTrace.Time.Duration

/-! Events gathered into batches for one trace. A batch is submitted when it is full, when its first
event is old enough, and at the end. A submission that fails in passing is made once more with the
same batch, which the backend recognises by its identifier; after any other failure the collector
takes nothing more. -/
namespace TrafficTrace

/-- What a call takes from its surroundings: random bytes, and one reading of the clock that dates
its event and tells the age of the batch. -/
structure Moment where
  now : Instant
  fresh : Uuid
deriving DecidableEq

/-- The event with an identifier of its own, made from random bytes if it has none. -/
def Event.identified (e : Event) (fresh : Uuid) : Event :=
  match e.requestId with
  | some _ => e
  | none => e.withRequestId (String.ofList fresh.simple)

/-- The bytes that identify a batch: those of the trace, then every event on a line. -/
def batchContent (trace : TraceId) (events : List Event) : List UInt8 :=
  trace.uuid.bytes ++ events.flatMap fun e => (e.toText ++ "\n").toUTF8.toList

/-- The same events for the same trace have the same identifier. -/
def batchId (trace : TraceId) (events : List Event) : String :=
  Digest.sha256Hex (batchContent trace events)

inductive CollectorPhase where
  | open_
  | poisoned
  | closed
deriving DecidableEq, Repr

structure BatchCollector where
  service : ServiceId
  trace : TraceId
  client : Uuid
  policy : BatchPolicy
  /-- The events of the next batch in order. -/
  buffer : List Event
  /-- When the first of them came. -/
  oldest : Option Instant
  phase : CollectorPhase
  /-- How many events the backend has accepted. -/
  submitted : Nat
  /-- How many batches the backend has accepted. -/
  batches : Nat

namespace BatchCollector

/-- A batch holds at least one event, whatever the policy. -/
def start (service : ServiceId) (trace : TraceId) (client : Uuid) (policy : BatchPolicy) :
    BatchCollector :=
  ⟨service, trace, client, policy.normal, [], none, .open_, 0, 0⟩

/-- Whether the buffered events are to be submitted. -/
def isDue (c : BatchCollector) (now : Instant) : Bool :=
  c.policy.maxSize ≤ c.buffer.length ||
    match c.oldest with
    | some t => now.elapsed t c.policy.maxAge
    | none => false

/-- The buffered events as a batch. -/
def batch (c : BatchCollector) : EventBatch := ⟨batchId c.trace c.buffer, c.client, c.buffer⟩

def emptied (c : BatchCollector) : BatchCollector := { c with buffer := [], oldest := none }

/-- The batch counts as accepted. -/
def accepted (c : BatchCollector) (events : Nat) : BatchCollector :=
  { c with submitted := c.submitted + events, batches := c.batches + 1 }

def poison (c : BatchCollector) : BatchCollector := { c with phase := .poisoned }
def closed (c : BatchCollector) : BatchCollector := { c with phase := .closed }

/-- Takes one event into the buffer. -/
def push (c : BatchCollector) (now : Instant) (e : Event) : BatchCollector :=
  { c with
    oldest := if c.buffer.isEmpty then some now else c.oldest
    buffer := c.buffer ++ [e] }

variable {σ : Type}

/-- Sends a batch, and once more when the first failure may pass. -/
def submit (b : Backend σ) (c : BatchCollector) (batch : EventBatch) (s : σ) :
    Except TransportError AppendResponse × σ :=
  match b.appendEvents c.service c.trace batch s with
  | (.error e, s) => if e.isRetryable then b.appendEvents c.service c.trace batch s else (.error e, s)
  | answer => answer

/-- Submits the buffered events, if there are any. -/
def flush (b : Backend σ) (c : BatchCollector) (s : σ) :
    Except CollectorError Unit × BatchCollector × σ :=
  if c.buffer.isEmpty then (.ok (), c, s)
  else match submit b c c.batch s with
    | (.ok _, s) => (.ok (), c.emptied.accepted c.buffer.length, s)
    | (.error e, s) => (.error (.submit c.trace c.buffer.length e), c.emptied.poison, s)

def flushIfDue (b : Backend σ) (now : Instant) (c : BatchCollector) (s : σ) :
    Except CollectorError Unit × BatchCollector × σ :=
  match c.phase with
  | .poisoned => (.error .poisoned, c, s)
  | .closed => (.ok (), c, s)
  | .open_ => if c.isDue now then flush b c s else (.ok (), c, s)

def process (b : Backend σ) (m : Moment) (e : Event) (c : BatchCollector) (s : σ) :
    Except CollectorError Disposition × BatchCollector × σ :=
  match c.phase with
  | .poisoned => (.error .poisoned, c, s)
  | .closed => (.error .closed, c, s)
  | .open_ =>
    let c := c.push m.now (e.identified m.fresh)
    if c.isDue m.now then
      let (r, c, s) := flush b c s
      (r.map fun _ => .forwarded, c, s)
    else (.ok .forwarded, c, s)

/-- Submits what is left; nothing is taken afterwards. -/
def close (b : Backend σ) (c : BatchCollector) (s : σ) :
    Except CollectorError Unit × BatchCollector × σ :=
  match c.phase with
  | .poisoned => (.error .poisoned, c, s)
  | .closed => (.ok (), c, s)
  | .open_ =>
    match flush b c s with
    | (.ok (), c, s) => (.ok (), c.closed, s)
    | failure => failure

end BatchCollector

end TrafficTrace
