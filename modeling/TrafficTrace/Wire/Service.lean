import TrafficTrace.Wire.Trace

/-! Messages about services and about the traces that are active in them. -/
namespace TrafficTrace

open Document

/-- A service as listed. -/
structure ServiceSummary where
  id : ServiceId
  name : String
deriving DecidableEq, Repr

namespace ServiceSummary

def record : Record ServiceSummary :=
  mk <$> Record.required "id" (Id.decoder .service) <*> Record.required "name" Decoder.text

def toJson (s : ServiceSummary) : Json := .obj [("id", s.id.toJson), ("name", .str s.name)]

end ServiceSummary

/-- A sign of life of a running daemon. -/
structure Heartbeat where
  clientId : Uuid
  cliVersion : String
  activeTraces : List TraceId
  sentAt : Timestamp
deriving DecidableEq, Repr

namespace Heartbeat

def record : Record Heartbeat :=
  mk <$> Record.required "client_id" Uuid.decoder
    <*> Record.required "cli_version" Decoder.text
    <*> Record.required "active_traces" (Decoder.list (Id.decoder .trace))
    <*> Record.required "sent_at" Timestamp.decoder

def toJson (h : Heartbeat) : Json :=
  .obj [("client_id", h.clientId.toJson), ("cli_version", .str h.cliVersion),
    ("active_traces", .arr (h.activeTraces.map Id.toJson)), ("sent_at", h.sentAt.toJson)]

end Heartbeat

/-- What the asker of a long poll knows, and how long it is willing to wait. -/
structure ActiveTraceQuery where
  knownActive : List TraceId
  timeoutSecs : Nat
deriving DecidableEq, Repr

namespace ActiveTraceQuery

def record : Record ActiveTraceQuery :=
  (fun known secs => mk (Id.setOf known) secs)
    <$> Record.required "known_active" (Decoder.list (Id.decoder .trace))
    <*> Record.required "timeout_secs" Decoder.nat64

def toJson (q : ActiveTraceQuery) : Json :=
  .obj [("known_active", .arr (q.knownActive.map Id.toJson)), ("timeout_secs", .ofNat q.timeoutSecs)]

end ActiveTraceQuery

/-- The difference between the traces known to be active and those that are. -/
structure ActiveTraceDiff where
  activated : List TraceInfo
  deactivated : List TraceId
deriving DecidableEq, Repr

namespace ActiveTraceDiff

def isEmpty (d : ActiveTraceDiff) : Bool := d.activated.isEmpty && d.deactivated.isEmpty

def record : Record ActiveTraceDiff :=
  mk <$> Record.defaulted "activated" (Decoder.list TraceInfo.record.decode) []
    <*> Record.defaulted "deactivated" (Decoder.list (Id.decoder .trace)) []

def toJson (d : ActiveTraceDiff) : Json :=
  .obj [("activated", .arr (d.activated.map TraceInfo.toJson)),
    ("deactivated", .arr (d.deactivated.map Id.toJson))]

end ActiveTraceDiff

/-- Whether one trace is still active. -/
structure TraceActivity where
  active : Bool
deriving DecidableEq, Repr

namespace TraceActivity

def record : Record TraceActivity := mk <$> Record.required "active" Decoder.bool

def toJson (a : TraceActivity) : Json := .obj [("active", .bool a.active)]

end TraceActivity

end TrafficTrace
