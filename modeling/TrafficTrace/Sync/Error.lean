import TrafficTrace.Collector.Error
import TrafficTrace.Resolve.Error

/-! What can go wrong in an upload. -/
namespace TrafficTrace

inductive SyncError where
  | service (service : String) (source : ResolveError)
  | traceExists (service trace : String)
  | traceLookup (trace : String) (source : ResolveError)
  | createTrace (trace : String) (source : TransportError)
  | collect (trace : String) (source : CollectorError)
  | pipeline (source : CollectorError)
deriving DecidableEq, Repr

namespace SyncError

def message : SyncError → String
  | service s source => "Service " ++ Text.quote s ++ ": " ++ source.message
  | traceExists s t => "Trace " ++ Text.quote t ++ " already exists in service " ++ Text.quote s ++
      "; pass --append to add events to it"
  | traceLookup t source => "Failed to look up trace " ++ Text.quote t ++ ": " ++ source.message
  | createTrace t source => "Failed to create trace " ++ Text.quote t ++ ": " ++ source.message
  | collect t source =>
    "Failed to upload events to trace " ++ Text.quote t ++ ": " ++ source.message
  | pipeline source => "Invalid upload options: " ++ source.message

def fault (e : SyncError) : Fault :=
  match e with
  | service _ source => .wrapping "Service" e.message source.fault
  | traceExists _ _ => .plain "TraceExists" e.message
  | traceLookup _ source => .wrapping "TraceLookup" e.message source.fault
  | createTrace _ source => .wrapping "CreateTrace" e.message source.fault
  | collect _ source => .wrapping "Collect" e.message source.fault
  | pipeline source => .wrapping "Pipeline" e.message source.fault

end SyncError

end TrafficTrace
