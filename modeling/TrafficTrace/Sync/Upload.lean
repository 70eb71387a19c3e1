import TrafficTrace.Collector.Feed
import TrafficTrace.Metrics.Basic
import TrafficTrace.Resolve.Resolver
import TrafficTrace.Sync.Error
import TrafficTrace.Sync.TraceName

/-! Uploads of events into a trace of a service. A trace that exists is only written to when that is
asked for, and one that does not exist is created. -/
namespace TrafficTrace

structure UploadRequest where
  service : String
  /-- The name of the trace; one is made up when there is none. -/
  trace : Option String
  /-- Whether events may be added to a trace that exists. -/
  append : Bool
  tags : TagSet
  baseSpec : Option SpecId
  includeTrackers : Bool
  hostExclusions : List String
  pathExclusions : List String
deriving DecidableEq

/-- The trace that an upload writes to. -/
structure UploadTarget where
  id : TraceId
  name : String
  created : Bool
deriving DecidableEq

structure UploadSummary where
  service : ServiceId
  trace : TraceId
  traceName : String
  created : Bool
  /-- How many events the backend has accepted. -/
  submitted : Nat
  batches : Nat
  counts : PacketCounts

/-- What an upload takes from its surroundings. -/
structure UploadSetting where
  client : Uuid
  policy : BatchPolicy
  now : Instant
  /-- The random bytes of a made-up name. -/
  fresh : Uuid
deriving DecidableEq

structure UploadOutcome (σ : Type) where
  result : Except SyncError UploadSummary
  progress : List Nat
  resolver : Resolver
  state : σ

namespace Upload

variable {σ : Type}

/-- Creates the trace of a name. Tags that are reserved for the backend are left out. -/
def create (b : Backend σ) (now : Instant) (service : ServiceId) (name : String)
    (request : UploadRequest) (r : Resolver) (s : σ) :
    Except SyncError UploadTarget × Resolver × σ :=
  match b.createTrace service ⟨name, request.tags.withoutReserved, request.baseSpec⟩ s with
  | (.error e, s) => (.error (.createTrace name e), r, s)
  | (.ok info, s) => (.ok ⟨info.id, name, true⟩, r.remember now service name info.id, s)

/-- Chooses the trace for a request. -/
def target (b : Backend σ) (setting : UploadSetting) (service : ServiceId)
    (request : UploadRequest) (r : Resolver) (s : σ) :
    Except SyncError UploadTarget × Resolver × σ :=
  match request.trace with
  | none => create b setting.now service (TraceName.ofBytes setting.fresh) request r s
  | some name =>
    match r.trace b setting.now service name s with
    | (.error (.notFound _ _), r, s) => create b setting.now service name request r s
    | (.error e, r, s) => (.error (.traceLookup name e), r, s)
    | (.ok id, r, s) =>
      if request.append then (.ok ⟨id, name, false⟩, r, s)
      else (.error (.traceExists request.service name), r, s)

/-- The chain of an upload: everything is counted, and what is neither a tracker's nor excluded is
sent in batches. -/
def chain (setting : UploadSetting) (service : ServiceId) (trace : TraceId)
    (request : UploadRequest) (rules : ExclusionRules) : Collector :=
  .counting .empty (.trackers request.includeTrackers (.exclusion rules
    (.batches (.start service trace setting.client setting.policy))))

/-- Feeds the chain, closes it and sums up. -/
def deliver (b : Backend σ) (service : ServiceId) (chosen : UploadTarget)
    (feed : Collector → σ → Feed.Outcome σ) (c : Collector) (s : σ) :
    Except SyncError UploadSummary × List Nat × σ :=
  let fed := feed c s
  match fed.result with
  | .error e => (.error (.collect chosen.name e), fed.progress, fed.state)
  | .ok _ =>
    match fed.collector.close b fed.state with
    | (.error e, _, s) => (.error (.collect chosen.name e), fed.progress, s)
    | (.ok (), c, s) =>
      let (submitted, batches) := c.accepted
      let counts := c.counts.headD .empty
      (.ok ⟨service, chosen.id, chosen.name, chosen.created, submitted, batches, counts⟩,
        fed.progress, s)

/-- An upload of whatever `feed` hands over. What the user wrote is checked before anything is
asked of the backend. -/
def run (b : Backend σ) (setting : UploadSetting) (request : UploadRequest)
    (feed : Collector → σ → Feed.Outcome σ) (r : Resolver) (s : σ) : UploadOutcome σ :=
  match ExclusionRules.compile request.hostExclusions request.pathExclusions with
  | .error e => ⟨.error (.pipeline e), [], r, s⟩
  | .ok rules =>
    match r.service b setting.now request.service s with
    | (.error e, r, s) => ⟨.error (.service request.service e), [], r, s⟩
    | (.ok service, r, s) =>
      match target b setting service request r s with
      | (.error e, r, s) => ⟨.error e, [], r, s⟩
      | (.ok chosen, r, s) =>
        let (result, progress, s) :=
          deliver b service chosen feed (chain setting service chosen.id request rules) s
        ⟨result, progress, r, s⟩

/-- An upload of events that are at hand. -/
def all (b : Backend σ) (setting : UploadSetting) (request : UploadRequest)
    (events : List (Moment × Event)) (r : Resolver) (s : σ) : UploadOutcome σ :=
  run b setting request (fun c s => Feed.all b c s 0 events) r s

/-- An upload of events as they arrive. -/
def live (b : Backend σ) (setting : UploadSetting) (request : UploadRequest)
    (fresh : Nat → Uuid) (wake : Instant → σ → σ)
    (occurrences : List (Instant × Feed.Occurrence)) (r : Resolver) (s : σ) : UploadOutcome σ :=
  run b setting request (fun c s => Feed.occurrences b fresh wake c s 0 occurrences) r s

/-- The metrics after an upload. A failed one counts as a run, and its events do not count. -/
def account (took : Duration) (result : Except SyncError UploadSummary) (m : Metrics) : Metrics :=
  let m := match result with
    | .ok summary => m.recordEvents summary.submitted summary.counts.total.filtered
    | .error _ => m
  m.recordOperation "sync.upload" took

end Upload

end TrafficTrace
