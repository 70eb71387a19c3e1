import TrafficTrace.Identifier
import TrafficTrace.Pattern.Parser
import TrafficTrace.Transport.Error

/-! What can go wrong while events are collected. -/
namespace TrafficTrace

/-- What an exclusion pattern is compared with. -/
inductive ExclusionField where
  | host
  | path
deriving DecidableEq, Repr

def ExclusionField.phrase : ExclusionField → String
  | host => "host exclusion"
  | path => "path exclusion"

inductive CollectorError where
  | submit (trace : TraceId) (events : Nat) (source : TransportError)
  | closed
  | poisoned
  | invalidPattern (field : ExclusionField) (pattern : String) (fault : Pattern.Fault)
deriving DecidableEq, Repr

namespace CollectorError

def message : CollectorError → String
  | submit trace events source =>
    "Failed to submit " ++ toString events ++ " events to trace " ++ trace.toText ++ ": " ++
      source.message
  | closed => "Collector is closed"
  | poisoned => "An earlier submission failed; refusing further events"
  | invalidPattern field pattern fault =>
    "Invalid " ++ field.phrase ++ " pattern " ++ Text.quote pattern ++ ": " ++ fault.message

def fault : CollectorError → Fault
  | submit trace events source =>
    .wrapping "Submit" (submit trace events source).message source.fault
  | closed => .plain "Closed" closed.message
  | poisoned => .plain "Poisoned" poisoned.message
  | invalidPattern field pattern cause =>
    .mk "InvalidPattern" (invalidPattern field pattern cause).message
      (some (.pattern cause.message)) none

end CollectorError

end TrafficTrace
