import TrafficTrace.Assoc
import TrafficTrace.Daemon.LongPoll

/-! The daemon of one service. It polls for the traces that are active, tells a handler which start
and which end, and has a watcher for each one that waits for its end. Here is everything a daemon
does, without the time that passes between: what can happen to it next is up to its surroundings. -/
namespace TrafficTrace

/-- What the daemon tells its handler. -/
inductive HandlerCall where
  | activated (info : TraceInfo)
  | deactivated (trace : TraceId)
deriving DecidableEq

/-- What has happened so far. -/
structure DaemonReport where
  activations : Nat
  deactivations : Nat
  pollErrors : Nat
deriving DecidableEq, Repr

/-- The word of a watcher that its trace has ended. -/
structure WatcherReport where
  trace : TraceId
  /-- The number of the activation that the watcher was started for. -/
  activation : Nat
deriving DecidableEq, Repr

structure Watcher where
  activation : Nat
  /-- Whether it has not reported yet. -/
  live : Bool
deriving DecidableEq, Repr

/-- The channel over which a daemon is told to stop. -/
structure StopSignal where
  value : Bool
  /-- Whether a value was published that the daemon has not looked at. -/
  unseen : Bool
  /-- Whether nobody is left who could publish. -/
  abandoned : Bool
deriving DecidableEq, Repr

namespace StopSignal

def start (value : Bool) : StopSignal := ⟨value, false, false⟩
def publish (s : StopSignal) (value : Bool) : StopSignal := { s with value := value, unseen := true }
def abandon (s : StopSignal) : StopSignal := { s with abandoned := true }

/-- Whether one who waits for the signal wakes up. -/
def wakes (s : StopSignal) : Bool := s.unseen || s.abandoned

end StopSignal

/-- Where a daemon is in its loop. -/
inductive DaemonControl where
  | head
  /-- A poll is in flight that was given these known traces. -/
  | polling (known : List TraceId)
  /-- The rest of a difference is still to be applied. -/
  | applying (activated : List TraceInfo) (deactivated : List TraceId)
  /-- The handler is told of an activation; the watcher follows. -/
  | handling (info : TraceInfo) (activated : List TraceInfo) (deactivated : List TraceId)
  | sleeping (delay : Duration)
  | stopped
deriving DecidableEq

structure Daemon where
  control : DaemonControl
  /-- The active traces in ascending order. -/
  known : List TraceId
  watchers : Assoc TraceId Watcher
  /-- Reports that were sent and not yet received, the first one first. -/
  reports : List WatcherReport
  /-- What watchers may still report that were told to end: one with its answer at hand is not
  stopped. -/
  dismissed : List WatcherReport
  signal : StopSignal
  poll : PollState
  report : DaemonReport
  /-- Everything the handler was told, the first call first. -/
  calls : List HandlerCall

/-- What can happen to a daemon. -/
inductive DaemonEvent where
  /-- The loop starts over. -/
  | turn
  /-- The poll in flight ends. -/
  | polled (outcome : PollOutcome)
  /-- The first waiting report is received. -/
  | received
  /-- The signal to stop is noticed. -/
  | signalled
  /-- The next part of a difference is applied. -/
  | applied
  /-- The wait after an error is over. -/
  | woke
  /-- The watcher of a trace reports its end. -/
  | watched (trace : TraceId)
  /-- A watcher reports that was told to end. -/
  | straggled (report : WatcherReport)
  | published (value : Bool)
  | abandoned
deriving DecidableEq

namespace Daemon

def start (poll : PollState) (shutdown : Bool) : Daemon :=
  ⟨.head, [], .empty, [], [], .start shutdown, poll, ⟨0, 0, 0⟩, []⟩

/-- What the watcher of a trace has still to report. -/
def owed (d : Daemon) (trace : TraceId) : List WatcherReport :=
  match d.watchers.get? trace with
  | some w => if w.live then [⟨trace, w.activation⟩] else []
  | none => []

/-- Ends a known trace, whoever says so, and tells its watcher to end. -/
def deactivate (d : Daemon) (trace : TraceId) : Daemon :=
  if trace ∈ d.known then
    { d with
      known := d.known.filter (· ≠ trace)
      watchers := d.watchers.erase trace
      dismissed := d.dismissed ++ d.owed trace
      report := { d.report with deactivations := d.report.deactivations + 1 }
      calls := d.calls ++ [.deactivated trace] }
  else d

/-- A trace that was not known starts. -/
def activate (d : Daemon) (info : TraceInfo) : Daemon :=
  { d with
    known := Id.insert info.id d.known
    report := { d.report with activations := d.report.activations + 1 }
    calls := d.calls ++ [.activated info] }

/-- Gives a trace its watcher. -/
def watch (d : Daemon) (trace : TraceId) : Daemon :=
  { d with watchers := d.watchers.put trace ⟨d.report.activations, true⟩ }

/-- The end of a turn: a wait after an error, and otherwise the next turn. -/
def finishTurn (d : Daemon) : Daemon :=
  let delay := d.poll.nextDelay
  if delay = .zero then { d with poll := d.poll.settle, control := .head }
  else { d with control := .sleeping delay }

/-- What an outcome of the poll in flight leads to. -/
def observe (d : Daemon) (outcome : PollOutcome) : Daemon :=
  let d := { d with poll := d.poll.observe outcome.result }
  match outcome with
  | .changed diff => { d with control := .applying diff.activated diff.deactivated }
  | .timedOut => d.finishTurn
  | .failed _ =>
    { d with report := { d.report with pollErrors := d.report.pollErrors + 1 } }.finishTurn

/-- The next part of a difference: activations come before deactivations, and one of a trace that is
known is skipped. -/
def apply (d : Daemon) : DaemonControl → Option Daemon
  | .applying (info :: rest) gone =>
    if info.id ∈ d.known then some { d with control := .applying rest gone }
    else some { d.activate info with control := .handling info rest gone }
  | .applying [] (trace :: rest) => some { d.deactivate trace with control := .applying [] rest }
  | .applying [] [] => some d.finishTurn
  | .handling info rest gone => some { d.watch info.id with control := .applying rest gone }
  | _ => none

/-- The daemon after an event, and none if the event cannot happen now. -/
def step (d : Daemon) : DaemonEvent → Option Daemon
  | .turn =>
    match d.control with
    | .head =>
      if d.signal.value then some { d with control := .stopped }
      else some { d with poll := d.poll.begin_, control := .polling d.known }
    | _ => none
  | .polled outcome =>
    match d.control with
    | .polling _ => some (d.observe outcome)
    | _ => none
  | .received =>
    match d.control, d.reports with
    | .polling _, r :: rest =>
      let d := { d with reports := rest }.deactivate r.trace
      some { d with poll := d.poll.settle, control := .head }
    | _, _ => none
  | .signalled =>
    match d.control with
    | .polling _ | .sleeping _ =>
      if d.signal.wakes then some { d with control := .stopped } else none
    | _ => none
  | .applied => d.apply d.control
  | .woke =>
    match d.control with
    | .sleeping _ => some { d with poll := d.poll.settle, control := .head }
    | _ => none
  | .watched trace =>
    match d.watchers.get? trace with
    | some w =>
      if w.live then
        some { d with
          watchers := d.watchers.put trace { w with live := false }
          reports := d.reports ++ [⟨trace, w.activation⟩] }
      else none
    | none => none
  | .straggled report =>
    if report ∈ d.dismissed then
      some { d with
        dismissed := d.dismissed.erase report
        reports := d.reports ++ [report] }
    else none
  | .published value => some { d with signal := d.signal.publish value }
  | .abandoned => some { d with signal := d.signal.abandon }

/-- The daemon after events in a row, and none if one of them cannot happen. -/
def run? (d : Daemon) (events : List DaemonEvent) : Option Daemon := events.foldlM step d

end Daemon

end TrafficTrace
