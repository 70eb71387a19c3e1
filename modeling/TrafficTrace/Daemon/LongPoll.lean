import TrafficTrace.Daemon.PollState
import TrafficTrace.Time.Duration
import TrafficTrace.Transport.Error
import TrafficTrace.Wire.Service

/-! Long polls. The backend holds its answer back until there is news or the timeout is over; a client
waits a little longer than that and then gives up. -/
namespace TrafficTrace

/-- The answer to a call, and after how many nanoseconds it comes; it may never come. -/
structure Reply (α : Type) where
  delay : Option Nat
  answer : Except TransportError α

structure LongPoller where
  service : ServiceId
  timeout : Duration
  grace : Duration
deriving DecidableEq, Repr

/-- How a poll for the active traces ended. -/
inductive PollOutcome where
  | changed (diff : ActiveTraceDiff)
  | timedOut
  | failed (e : TransportError)
deriving DecidableEq

def PollOutcome.result : PollOutcome → PollResult
  | changed _ => .changed
  | timedOut => .timedOut
  | failed _ => .failed

/-- How a poll for the end of one trace ended. -/
inductive DeactivationOutcome where
  | deactivated
  | timedOut
  | failed (e : TransportError)
deriving DecidableEq, Repr

namespace LongPoller

def standardTimeout : Duration := .ofSecs 240
def standardGrace : Duration := .ofSecs 10

/-- After how many nanoseconds a poll is given up. -/
def deadline (p : LongPoller) : Nat := p.timeout.nanos + p.grace.nanos

/-- The same as a duration; none if it is too long to be one. -/
def deadline? (p : LongPoller) : Option Duration := p.timeout.add? p.grace

/-- The answer if it comes in time, and how long the wait was. -/
def await {α : Type} (p : LongPoller) (r : Reply α) : Nat × Option (Except TransportError α) :=
  match r.delay with
  | some d => if d ≤ p.deadline then (d, some r.answer) else (p.deadline, none)
  | none => (p.deadline, none)

/-- An answer without news is as good as none. -/
def activeOutcome : Option (Except TransportError ActiveTraceDiff) → PollOutcome
  | none => .timedOut
  | some (.error e) => .failed e
  | some (.ok diff) => if diff.isEmpty then .timedOut else .changed diff

def deactivationOutcome : Option (Except TransportError TraceActivity) → DeactivationOutcome
  | none => .timedOut
  | some (.error e) => .failed e
  | some (.ok activity) => if activity.active then .timedOut else .deactivated

end LongPoller

/-- Whatever answers the polls and takes the heartbeats; `σ` is its state. -/
structure Directory (σ : Type) where
  activeTraces : ServiceId → List TraceId → Duration → σ → Reply ActiveTraceDiff × σ
  deactivation : ServiceId → TraceId → Duration → σ → Reply TraceActivity × σ
  heartbeat : ServiceId → List TraceId → σ → Reply Unit × σ

end TrafficTrace
