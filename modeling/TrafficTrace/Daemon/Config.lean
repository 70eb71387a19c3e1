import TrafficTrace.Document.Record
import TrafficTrace.Resolve.Error
import TrafficTrace.Time.Duration

/-! The timings of a daemon, written in whole seconds, and what can go wrong with it. -/
namespace TrafficTrace

open Document

inductive DaemonError where
  | service (service : String) (source : ResolveError)
  | config (text : String)
deriving DecidableEq, Repr

namespace DaemonError

def message : DaemonError → String
  | service s source => "Service " ++ Text.quote s ++ ": " ++ source.message
  | config text => "Daemon configuration error: " ++ text

def fault (e : DaemonError) : Fault :=
  match e with
  | service _ source => .wrapping "Service" e.message source.fault
  | config _ => .plain "Config" e.message

end DaemonError

structure DaemonConfig where
  pollTimeout : Duration
  /-- How much longer than the timeout a poll may take. -/
  pollGrace : Duration
  heartbeatInterval : Duration
  errorBackoff : Duration
  maxErrorBackoff : Duration
deriving DecidableEq, Repr

namespace DaemonConfig

def standard : DaemonConfig := ⟨.ofSecs 240, .ofSecs 10, .ofSecs 30, .ofSecs 5, .ofSecs 60⟩

/-- Timings that would halt the loop are refused; the first that is zero is named. -/
def validate (c : DaemonConfig) : Except DaemonError Unit :=
  let zero := [("poll timeout", c.pollTimeout), ("heartbeat interval", c.heartbeatInterval),
    ("error backoff", c.errorBackoff)].find? (·.2 = .zero)
  match zero with
  | some (name, _) => .error (.config (name ++ " must be positive"))
  | none =>
    if c.maxErrorBackoff < c.errorBackoff then
      .error (.config "max error backoff must not be below error backoff")
    else .ok ()

def seconds : Decoder Duration := fun n => (Decoder.nat64 n).map .ofSecs

def record : Record DaemonConfig :=
  mk <$> Record.defaulted "pollTimeout" seconds standard.pollTimeout
    <*> Record.defaulted "pollGrace" seconds standard.pollGrace
    <*> Record.defaulted "heartbeatInterval" seconds standard.heartbeatInterval
    <*> Record.defaulted "errorBackoff" seconds standard.errorBackoff
    <*> Record.defaulted "maxErrorBackoff" seconds standard.maxErrorBackoff

def toJson (c : DaemonConfig) : Json :=
  .obj [("pollTimeout", .ofNat c.pollTimeout.secs), ("pollGrace", .ofNat c.pollGrace.secs),
    ("heartbeatInterval", .ofNat c.heartbeatInterval.secs),
    ("errorBackoff", .ofNat c.errorBackoff.secs),
    ("maxErrorBackoff", .ofNat c.maxErrorBackoff.secs)]

end DaemonConfig

end TrafficTrace
