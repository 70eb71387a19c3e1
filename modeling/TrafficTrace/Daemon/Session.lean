import TrafficTrace.Daemon.Basic
import TrafficTrace.Daemon.Config
import TrafficTrace.Resolve.Resolver

/-! A daemon in time. Between two moments at which something ends nothing happens; at such a moment
the daemon's loop goes on until it waits again, then its watchers do, then the heartbeat. Every change
of the daemon is one of its events. -/
namespace TrafficTrace

/-- A poll for the active traces. It has no end if it was given up or left. -/
structure PollRecord where
  started : Instant
  known : List TraceId
  ended : Option Instant
deriving DecidableEq

/-- A poll for the end of one trace. -/
structure WatchRecord where
  started : Instant
  trace : TraceId
  ended : Option Instant
deriving DecidableEq

structure HeartbeatRecord where
  time : Instant
  active : List TraceId
deriving DecidableEq

/-- What the loop waits for. -/
inductive LoopWait where
  /-- A poll's end, its outcome, and whether an answer came. -/
  | poll (until_ : Instant) (outcome : PollOutcome) (answered : Bool)
  | pause (until_ : Instant)
deriving DecidableEq

def LoopWait.end_ : LoopWait → Instant
  | poll t _ _ | pause t => t

/-- What a watcher waits for. -/
inductive WatchWait where
  | ready
  /-- The place of the poll in the records, its end, and its outcome. -/
  | poll (record : Nat) (until_ : Instant) (outcome : DeactivationOutcome) (answered : Bool)
  | pause (until_ : Instant)
deriving DecidableEq

structure WatchTask where
  trace : TraceId
  activation : Nat
  poll : PollState
  wait : WatchWait
deriving DecidableEq

/-- The task that sends heartbeats: its next tick, and the end of the call in flight. -/
structure HeartTask where
  tick : Instant
  busy : Option Instant
  live : Bool
deriving DecidableEq

structure Session (σ : Type) where
  now : Instant
  daemon : Daemon
  wait : Option LoopWait
  tasks : List WatchTask
  heart : HeartTask
  state : σ
  handled : List (Instant × HandlerCall)
  polls : List PollRecord
  watches : List WatchRecord
  heartbeats : List HeartbeatRecord

/-- What stays the same during a session. -/
structure SessionSetting (σ : Type) where
  directory : Directory σ
  service : ServiceId
  config : DaemonConfig
  /-- How many nanoseconds the handler takes for an activation. -/
  handlerDelay : Nat

namespace SessionSetting

variable {σ : Type}

def poller (g : SessionSetting σ) : LongPoller :=
  ⟨g.service, g.config.pollTimeout, g.config.pollGrace⟩

end SessionSetting

namespace Session

variable {σ : Type}

def start (g : SessionSetting σ) (shutdown : Bool) (s : σ) : Session σ where
  now := 0
  daemon := .start (.start g.config.errorBackoff g.config.maxErrorBackoff) shutdown
  wait := none
  tasks := []
  heart := ⟨0, none, true⟩
  state := s
  handled := []
  polls := []
  watches := []
  heartbeats := []

/-- Lets an event happen, if it can. -/
def perform (s : Session σ) (e : DaemonEvent) : Session σ :=
  match s.daemon.step e with
  | some d =>
    { s with
      daemon := d
      handled := s.handled ++ (d.calls.drop s.daemon.calls.length).map fun c => (s.now, c) }
  | none => s

/-! The loop. -/

def startPoll (g : SessionSetting σ) (known : List TraceId) (s : Session σ) : Session σ :=
  let (reply, state) := g.directory.activeTraces g.service known g.config.pollTimeout s.state
  let (delay, answer) := g.poller.await reply
  { s with
    state := state
    wait := some (.poll (s.now + delay) (LongPoller.activeOutcome answer) answer.isSome)
    polls := s.polls ++ [⟨s.now, known, none⟩] }

/-- Notes the end of the latest poll. -/
def endPoll (s : Session σ) : Session σ :=
  { s with polls := s.polls.modify (s.polls.length - 1) fun r => { r with ended := some s.now } }

/-- Starts the watcher of a trace whose activation the handler has been told of. -/
def startTask (info : TraceInfo) (s : Session σ) : Session σ :=
  let s := s.perform .applied
  { s with
    tasks := s.tasks ++
      [⟨info.id, s.daemon.report.activations, s.daemon.poll.settle, .ready⟩] }

/-- Goes on until the loop waits or has stopped. -/
def settle (g : SessionSetting σ) : (fuel : Nat) → Session σ → Session σ
  | 0, s => s
  | fuel + 1, s =>
    match s.daemon.control with
    | .stopped => s
    | .head => settle g fuel (s.perform .turn)
    | .polling known =>
      if s.daemon.signal.wakes then settle g fuel ({ s with wait := none }.perform .signalled)
      else if !s.daemon.reports.isEmpty then
        settle g fuel ({ s with wait := none }.perform .received)
      else if s.wait.isNone then s.startPoll g known
      else s
    | .applying _ _ => settle g fuel (s.perform .applied)
    | .handling info _ _ =>
      if s.wait.isSome then s
      else if g.handlerDelay = 0 then settle g fuel (s.startTask info)
      else { s with wait := some (.pause (s.now + g.handlerDelay)) }
    | .sleeping delay =>
      if s.daemon.signal.wakes then settle g fuel ({ s with wait := none }.perform .signalled)
      else if s.wait.isNone then { s with wait := some (.pause (s.now + delay.nanos)) }
      else s

/-- What follows when the loop's wait is over. -/
def endWait (w : LoopWait) (s : Session σ) : Session σ :=
  let s := { s with wait := none }
  match w, s.daemon.control with
  | .poll _ outcome answered, _ => (if answered then s.endPoll else s).perform (.polled outcome)
  | .pause _, .handling info _ _ => s.startTask info
  | .pause _, _ => s.perform .woke

/-! The watchers. -/

/-- Whether the daemon still has the watcher. -/
def holds (s : Session σ) (t : WatchTask) : Bool :=
  match s.daemon.watchers.get? t.trace with
  | some w => w.activation = t.activation
  | none => false

/-- A watcher's next poll. -/
def startWatch (g : SessionSetting σ) (t : WatchTask) (s : Session σ) : WatchTask × Session σ :=
  let (reply, state) := g.directory.deactivation g.service t.trace g.config.pollTimeout s.state
  let (delay, answer) := g.poller.await reply
  let wait := .poll s.watches.length (s.now + delay) (LongPoller.deactivationOutcome answer)
    answer.isSome
  ({ t with wait := wait },
    { s with state := state, watches := s.watches ++ [⟨s.now, t.trace, none⟩] })

/-- Waits after an error, and otherwise polls again. -/
def pauseWatch (t : WatchTask) (result : PollResult) (now : Instant) : WatchTask :=
  let poll := t.poll.observe result
  let delay := poll.nextDelay
  { t with
    poll := poll
    wait := if delay = .zero then .ready else .pause (now + delay.nanos) }

/-- What follows when a watcher's wait is over; a watcher that has reported is done. -/
def endWatch (t : WatchTask) (s : Session σ) : Option WatchTask × Session σ :=
  match t.wait with
  | .poll record until_ outcome answered =>
    if s.now < until_ then (some t, s)
    else
      let s := if answered then
          { s with watches := s.watches.modify record fun r => { r with ended := some s.now } }
        else s
      match outcome with
      | .deactivated => (none, s.perform (.watched t.trace))
      | .timedOut => (some (pauseWatch t .timedOut s.now), s)
      | .failed _ => (some (pauseWatch t .failed s.now), s)
  | .pause until_ => (some (if s.now < until_ then t else { t with wait := .ready }), s)
  | .ready => (some t, s)

/-- Ends every watcher's wait that is over. -/
def endWatches (s : Session σ) : Session σ :=
  let (tasks, s) := s.tasks.foldl (fun (done, s) t =>
    let (t, s) := endWatch t s
    (done ++ t.toList, s)) ([], s)
  { s with tasks := tasks }

/-- Watchers that the daemon has dropped end, and so do all of them once there is a signal. The
others poll if they are ready; of those that are ready together the youngest polls first. -/
def startWatches (g : SessionSetting σ) (s : Session σ) : Session σ :=
  let tasks := if s.daemon.signal.wakes then [] else s.tasks.filter s.holds
  let (tasks, s) := tasks.foldr (fun t (done, s) =>
    if t.wait = .ready then
      let (t, s) := startWatch g t s
      (t :: done, s)
    else (t :: done, s)) ([], s)
  { s with tasks := tasks }

/-! The heartbeat. -/

/-- A tick may come this many nanoseconds late before the following ones are put off. -/
def tickTolerance : Nat := 5000000

def sendHeartbeat (g : SessionSetting σ) (s : Session σ) : Session σ :=
  let (reply, state) := g.directory.heartbeat g.service s.daemon.known s.state
  let base := if s.heart.tick + tickTolerance < s.now then s.now else s.heart.tick
  { s with
    state := state
    heart := { s.heart with
      tick := base + g.config.heartbeatInterval.nanos
      busy := reply.delay.map (s.now + ·)
      live := reply.delay.isSome }
    heartbeats := s.heartbeats ++ [⟨s.now, s.daemon.known⟩] }

/-- Sends heartbeats that are due until one takes time. -/
def beat (g : SessionSetting σ) : (fuel : Nat) → Session σ → Session σ
  | 0, s => s
  | fuel + 1, s =>
    let h := s.heart
    if !h.live then s
    else match h.busy with
      | some t => if s.now < t then s else beat g fuel { s with heart := { h with busy := none } }
      | none =>
        if s.daemon.signal.wakes then { s with heart := { h with live := false } }
        else if h.tick ≤ s.now then beat g fuel (s.sendHeartbeat g)
        else s

/-! The whole. -/

def WatchTask.end_? (t : WatchTask) : Option Instant :=
  match t.wait with
  | .ready => none
  | .poll _ u _ _ | .pause u => some u

def HeartTask.end_? (h : HeartTask) : Option Instant :=
  if !h.live then none else some (h.busy.getD h.tick)

/-- The next moment at which something ends. -/
def next? (s : Session σ) (signals : List (Instant × DaemonEvent)) : Option Instant :=
  let times := (s.wait.map LoopWait.end_).toList ++ s.tasks.filterMap WatchTask.end_? ++
    (HeartTask.end_? s.heart).toList ++ (signals.head?.map Prod.fst).toList
  times.min?

/-- What happens at one moment. Signals come first, then the reports of watchers. -/
def moment (g : SessionSetting σ) (fuel : Nat) (s : Session σ) : Session σ :=
  let s := settle g fuel s.endWatches
  let s := match s.wait with
    | some w => if s.now < w.end_ then s else settle g fuel (s.endWait w)
    | none => s
  if s.daemon.control = .stopped then s
  else beat g fuel (s.startWatches g)

/-- Runs until the daemon stops, or nothing can happen any more, or the fuel is used up. -/
def run (g : SessionSetting σ) : (fuel : Nat) → List (Instant × DaemonEvent) → Session σ → Session σ
  | 0, _, s => s
  | fuel + 1, signals, s =>
    let s := s.moment g (fuel + 1)
    if s.daemon.control = .stopped then s
    else match s.next? signals with
      | none => s
      | some t =>
        let s := { s with now := t }
        let due := signals.takeWhile (·.1 ≤ t)
        run g fuel (signals.drop due.length) (due.foldl (fun s e => s.perform e.2) s)

end Session

/-- The service of a name, for which a daemon is wanted. -/
def daemonService {σ : Type} (b : Backend σ) (now : Instant) (name : String) (r : Resolver) (s : σ) :
    Except DaemonError ServiceId × Resolver × σ :=
  let (found, r, s) := r.service b now name s
  (found.mapError (.service name), r, s)

/-- Runs a daemon, if its configuration is sound. `signals` tells when the signal to stop changes,
in order of time. -/
def runDaemon {σ : Type} (g : SessionSetting σ) (shutdown : Bool)
    (signals : List (Instant × DaemonEvent)) (fuel : Nat) (s : σ) :
    Except DaemonError DaemonReport × Session σ :=
  match g.config.validate with
  | .error e => (.error e, .start g shutdown s)
  | .ok () =>
    let ended := (Session.start g shutdown s).run g fuel signals
    (.ok ended.daemon.report, ended)

end TrafficTrace
