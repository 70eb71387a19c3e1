import TrafficTrace.Transport.Basic
import TrafficTrace.Wire.Service
import TrafficTrace.Wire.Spec

/-! The calls of the service, each with its request and the type of its answer. Texts that a caller
chooses are parameters or part of a body, never part of the path. -/
namespace TrafficTrace

open Document

inductive ServiceCall where
  | listServices
  | heartbeat (service : ServiceId) (sign : Heartbeat)
  /-- Waits until other traces than the known ones are active. -/
  | activeTraces (service : ServiceId) (known : List TraceId) (timeout : Duration)
  /-- Waits until the trace is no longer active. -/
  | deactivation (service : ServiceId) (trace : TraceId) (timeout : Duration)
  | listTraces (service : ServiceId) (tags : TagSet)
  | getTrace (service : ServiceId) (trace : TraceId)
  | createTrace (service : ServiceId) (request : CreateTraceRequest)
  | appendEvents (service : ServiceId) (trace : TraceId) (batch : EventBatch)
  | createSpec (service : ServiceId) (request : CreateSpecRequest)
  | getSpec (service : ServiceId) (spec : SpecId)
  | getSpecByVersion (service : ServiceId) (label : String)
  | resolveName (service : ServiceId) (kind : ResourceKind) (name : String)
  | getSpecDiff (service : ServiceId) (base head : SpecId)
deriving DecidableEq

namespace ServiceCall

/-- How much longer than the service a client waits for the answer to a long poll. -/
def grace : Duration := .ofSecs 10

/-- The timeout of a long poll; none if it is too long to be measured. -/
def patience? (timeout : Duration) : Option Duration := timeout.add? grace

/-- A path within a service. -/
def pathIn (service : ServiceId) (rest : List String) : String :=
  "/".intercalate ("/v1/services" :: service.toText :: rest)

/-- The request of a call, unless it has a timeout too long to be measured. Heartbeats replace each
other and a batch is stored once, so that these may be repeated; a repeated creation might create
twice. -/
def request? : ServiceCall → Option ApiRequest
  | listServices => some (.get "directory.list_services" "/v1/services")
  | heartbeat s sign =>
    some (ApiRequest.post "directory.heartbeat" (pathIn s ["heartbeat"]) sign.toJson).repeatable
  | activeTraces s known timeout =>
    let query : ActiveTraceQuery := ⟨known, timeout.secs⟩
    let r := ApiRequest.post "directory.long_poll_active_traces" (pathIn s ["daemon/long-poll"])
      query.toJson
    (patience? timeout).map r.repeatable.withTimeout
  | deactivation s trace timeout =>
    let r := ApiRequest.get "directory.long_poll_trace_deactivation"
      (pathIn s ["traces", trace.toText, "long-poll-inactive"])
    (patience? timeout).map (r.withQuery [("timeout_secs", toString timeout.secs)]).withTimeout
  | listTraces s tags =>
    some ((ApiRequest.get "session.list" (pathIn s ["traces"])).withQuery tags.toQuery)
  | getTrace s trace => some (.get "session.get" (pathIn s ["traces", trace.toText]))
  | createTrace s r => some (.post "session.create" (pathIn s ["traces"]) r.toJson)
  | appendEvents s trace batch =>
    some (ApiRequest.post "session.append_events" (pathIn s ["traces", trace.toText, "events"])
      batch.toJson).repeatable
  | createSpec s r => some (.post "session.create_spec" (pathIn s ["specs"]) r.toJson)
  | getSpec s spec => some (.get "session.get_spec" (pathIn s ["specs", spec.toText]))
  | getSpecByVersion s label =>
    some ((ApiRequest.get "session.get_spec_by_version"
      (pathIn s ["spec-versions/by-label"])).withQuery [("label", label)])
  | resolveName s kind name =>
    some ((ApiRequest.get "session.resolve_name" (pathIn s ["ids"])).withQuery
      [("type", kind.name), ("name", name)])
  | getSpecDiff s base head =>
    some (.get "session.get_spec_diff" (pathIn s ["specs", base.toText, "diff", head.toText]))

/-- What the service answers. -/
abbrev Answer : ServiceCall → Type
  | listServices => List ServiceSummary
  | heartbeat .. => Unit
  | activeTraces .. => ActiveTraceDiff
  | deactivation .. => TraceActivity
  | listTraces .. => List TraceInfo
  | getTrace .. => TraceInfo
  | createTrace .. => TraceInfo
  | appendEvents .. => AppendResponse
  | createSpec .. => CreateSpecResponse
  | getSpec .. => SpecInfo
  | getSpecByVersion .. => SpecInfo
  | resolveName .. => ResolvedName
  | getSpecDiff .. => SpecDiff

def answer : (c : ServiceCall) → Decoder c.Answer
  | listServices => Decoder.list ServiceSummary.record.decode
  | heartbeat .. => Decoder.nothing
  | activeTraces .. => ActiveTraceDiff.record.decode
  | deactivation .. => TraceActivity.record.decode
  | listTraces .. => Decoder.list TraceInfo.record.decode
  | getTrace .. => TraceInfo.record.decode
  | createTrace .. => TraceInfo.record.decode
  | appendEvents .. => AppendResponse.record.decode
  | createSpec .. => CreateSpecResponse.record.decode
  | getSpec .. => SpecInfo.record.decode
  | getSpecByVersion .. => SpecInfo.record.decode
  | resolveName .. => ResolvedName.record.decode
  | getSpecDiff .. => SpecDiff.record.decode

/-- Answers as documents. -/
def answerToJson : (c : ServiceCall) → c.Answer → Json
  | listServices, services => .arr (services.map ServiceSummary.toJson)
  | heartbeat .., _ => .null
  | activeTraces .., diff => diff.toJson
  | deactivation .., activity => activity.toJson
  | listTraces .., traces => .arr (traces.map TraceInfo.toJson)
  | getTrace .., trace => trace.toJson
  | createTrace .., trace => trace.toJson
  | appendEvents .., r => r.toJson
  | createSpec .., r => r.toJson
  | getSpec .., spec => spec.toJson
  | getSpecByVersion .., spec => spec.toJson
  | resolveName .., r => r.toJson
  | getSpecDiff .., diff => diff.toJson

/-- How a call is written as a document: under its name, with its arguments under theirs. -/
def catalog : List (String × Record ServiceCall) :=
  let service := Record.required "service" (Id.decoder .service)
  let id (k : IdKind) (name : String) := Record.required name (Id.decoder k)
  let timeout := Record.required "timeout_ms" fun n => (Decoder.nat64 n).map Duration.ofMillis
  let text (name : String) := Record.required name Decoder.text
  let known := Record.required "known" (Decoder.list (Id.decoder .trace))
  [("list_services", (fun _ => listServices) <$> service),
    ("heartbeat", heartbeat <$> service <*> Record.required "heartbeat" Heartbeat.record.decode),
    ("long_poll_active",
      (fun s k => activeTraces s (Id.setOf k)) <$> service <*> known <*> timeout),
    ("long_poll_deactivation", deactivation <$> service <*> id .trace "trace" <*> timeout),
    ("list_sessions", listTraces <$> service <*> Record.required "tags" TagSet.decoder),
    ("get_session", getTrace <$> service <*> id .trace "trace"),
    ("create_session",
      createTrace <$> service <*> Record.required "request" CreateTraceRequest.record.decode),
    ("append_events", appendEvents <$> service <*> id .trace "trace"
      <*> Record.required "batch" EventBatch.record.decode),
    ("create_spec",
      createSpec <$> service <*> Record.required "request" CreateSpecRequest.record.decode),
    ("get_spec", getSpec <$> service <*> id .spec "spec"),
    ("get_spec_by_version", getSpecByVersion <$> service <*> text "label"),
    ("resolve_name", resolveName <$> service <*> Record.defaulted "kind" ResourceKind.lenient .trace
      <*> text "name"),
    ("get_spec_diff", getSpecDiff <$> service <*> id .spec "base" <*> id .spec "head")]

end ServiceCall

end TrafficTrace
