import TrafficTrace.Time.Duration
import TrafficTrace.Transport.Error
import TrafficTrace.Wire.Service
import TrafficTrace.Wire.Trace

/-! What an upload asks of the backend. A backend is any machine that answers these calls; `σ` is its
state. -/
namespace TrafficTrace

structure Backend (σ : Type) where
  listServices : σ → Except TransportError (List ServiceSummary) × σ
  /-- The traces of a service that have the tags. -/
  listTraces : ServiceId → TagSet → σ → Except TransportError (List TraceInfo) × σ
  createTrace : ServiceId → CreateTraceRequest → σ → Except TransportError TraceInfo × σ
  appendEvents : ServiceId → TraceId → EventBatch → σ → Except TransportError AppendResponse × σ

inductive BackendCall where
  | listServices
  | listTraces (service : ServiceId) (tags : TagSet)
  | createTrace (service : ServiceId) (request : CreateTraceRequest)
  | appendEvents (service : ServiceId) (trace : TraceId) (batch : EventBatch)
deriving DecidableEq

namespace Backend

variable {σ : Type}

/-- A call that was made, when, and the error that was answered. -/
structure CallRecord where
  time : Instant
  call : BackendCall
  fault : Option TransportError
deriving DecidableEq

/-- A state that knows the time and every call, the latest last. -/
structure Stamped (σ : Type) where
  now : Instant
  state : σ
  calls : List CallRecord

namespace Stamped

def start (s : σ) : Stamped σ := ⟨0, s, []⟩

def wake (now : Instant) (s : Stamped σ) : Stamped σ := { s with now := now }

def faultOf {α : Type} : Except TransportError α → Option TransportError
  | .ok _ => none
  | .error e => some e

def step {α : Type} (call : BackendCall) (answer : σ → Except TransportError α × σ)
    (s : Stamped σ) : Except TransportError α × Stamped σ :=
  let (r, state) := answer s.state
  (r, { s with state := state, calls := s.calls ++ [⟨s.now, call, faultOf r⟩] })

end Stamped

/-- The same backend with a record of every call. -/
def stamped (b : Backend σ) : Backend (Stamped σ) where
  listServices := Stamped.step .listServices b.listServices
  listTraces service tags := Stamped.step (.listTraces service tags) (b.listTraces service tags)
  createTrace service request :=
    Stamped.step (.createTrace service request) (b.createTrace service request)
  appendEvents service trace batch :=
    Stamped.step (.appendEvents service trace batch) (b.appendEvents service trace batch)

end Backend

end TrafficTrace
