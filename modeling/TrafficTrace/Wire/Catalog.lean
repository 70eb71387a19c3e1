import TrafficTrace.Collector.BatchPolicy
import TrafficTrace.Retry
import TrafficTrace.Wire.Service
import TrafficTrace.Wire.Spec

/-! All types that are read from and written to documents, by name. -/
namespace TrafficTrace.Wire

open Document

/-- Reads a document as a type and writes it again. -/
def rendered {α : Type} (d : Decoder α) (toJson : α → Json) : Decoder Json := fun n => (d n).map toJson

def catalog : List (String × Decoder Json) := [
  ("ServiceId", rendered (Id.decoder .service) Id.toJson),
  ("TraceId", rendered (Id.decoder .trace) Id.toJson),
  ("SpecId", rendered (Id.decoder .spec) Id.toJson),
  ("TagSet", rendered TagSet.decoder TagSet.toJson),
  ("ServiceSummary", rendered ServiceSummary.record.decode ServiceSummary.toJson),
  ("Heartbeat", rendered Heartbeat.record.decode Heartbeat.toJson),
  ("ActiveTraceQuery", rendered ActiveTraceQuery.record.decode ActiveTraceQuery.toJson),
  ("ActiveTraceDiff", rendered ActiveTraceDiff.record.decode ActiveTraceDiff.toJson),
  ("TraceActivity", rendered TraceActivity.record.decode TraceActivity.toJson),
  ("TraceInfo", rendered TraceInfo.record.decode TraceInfo.toJson),
  ("CreateTraceRequest", rendered CreateTraceRequest.record.decode CreateTraceRequest.toJson),
  ("EventBatch", rendered EventBatch.record.decode EventBatch.toJson),
  ("AppendResponse", rendered AppendResponse.record.decode AppendResponse.toJson),
  ("VersionRange", rendered VersionRange.record.decode VersionRange.toJson),
  ("CreateSpecRequest", rendered CreateSpecRequest.record.decode CreateSpecRequest.toJson),
  ("CreateSpecResponse", rendered CreateSpecResponse.record.decode CreateSpecResponse.toJson),
  ("SpecState", rendered SpecState.decoder fun s => .str s.name),
  ("SpecInfo", rendered SpecInfo.record.decode SpecInfo.toJson),
  ("ResourceKind", rendered ResourceKind.decoder fun k => .str k.name),
  ("ResolveNameResponse", rendered ResolvedName.record.decode ResolvedName.toJson),
  ("EndpointChange", rendered EndpointChange.record.decode EndpointChange.toJson),
  ("SpecDiff", rendered SpecDiff.record.decode SpecDiff.toJson),
  ("Direction", rendered Direction.decoder fun d => .str d.name),
  ("EventKind", rendered EventKind.decoder fun k => .str k.name),
  ("CollectorEvent", rendered Event.decoder Event.toJson),
  ("BatchPolicy", rendered BatchPolicy.record.decode BatchPolicy.toJson),
  ("RetryPolicy", rendered RetryPolicy.record.decode RetryPolicy.toJson)]

end TrafficTrace.Wire
