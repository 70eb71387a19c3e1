import TrafficTrace.Backend

/-! A backend that answers from lists, with which an upload can be tried out. -/
namespace TrafficTrace

structure Script where
  services : Except TransportError (List ServiceSummary)
  traces : Except TransportError (List TraceInfo)
  /-- The answers to requests for new traces; one without an identifier gets the next. -/
  creates : List (Except TransportError (Option TraceId))
  /-- The errors of appends; where there is none, and after the end, they succeed. -/
  appends : List (Option TransportError)
  /-- How many new traces were asked for. -/
  created : Nat
  /-- The identifier of the trace that was asked for as the `n`th. -/
  issue : Nat → TraceId

namespace Backend

def scripted : Backend Script where
  listServices s := (s.services, s)
  listTraces _ _ s := (s.traces, s)
  createTrace service request s :=
    let n := s.created + 1
    let info (id : Option TraceId) : TraceInfo :=
      ⟨id.getD (s.issue n), service, request.name, request.tags, true, none⟩
    ((s.creates.head?.getD (.ok none)).map info,
      { s with creates := s.creates.tail, created := n })
  appendEvents _ _ batch s :=
    (match s.appends.head?.getD none with
      | some e => .error e
      | none => .ok ⟨batch.events.length⟩, { s with appends := s.appends.tail })

end Backend

end TrafficTrace
