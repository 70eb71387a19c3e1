import TrafficTrace.Metrics.Report
import TrafficTrace.Program.Arguments
import TrafficTrace.Program.Basic
import TrafficTrace.Sync.Upload

/-! The upload of a file of events. The events are read before anything is created, or sent as they are
read; in the second case what comes before a malformed line is uploaded. -/
namespace TrafficTrace

/-- What became of an upload from a file. -/
structure FileUpload (σ : Type) where
  result : Except Report UploadSummary
  /-- The upload itself, where it was reached. -/
  upload : Option (Except SyncError UploadSummary)
  resolver : Resolver
  state : σ

namespace Program

variable {σ : Type}

/-- Uploads what reading a file gave. -/
def uploadEvents (b : Backend σ) (setting : UploadSetting) (request : UploadRequest) (stream : Bool)
    (fresh : Nat → Uuid) (read : List Event × Option EventFault) (r : Resolver) (s : σ) :
    FileUpload σ :=
  let failed (e : SyncError) : Report := .ofFault e.fault
  if stream then
    let ticker : Feed.Ticker := ⟨setting.policy.tickInterval.nanos, 1⟩
    let o := Upload.live b setting request fresh (fun _ s => s)
      (Feed.schedule ticker 0 0 (read.1.map fun e => (0, e))) r s
    let result := match o.result, read.2 with
      | .error e, _ => .error (failed e)
      | .ok summary, none => .ok summary
      | .ok summary, some fault => .error (fault.report.within ("Stopped after " ++
          toString summary.submitted ++ " events were uploaded to trace " ++ summary.traceName))
    ⟨result, some o.result, o.resolver, o.state⟩
  else match read.2 with
    | some fault => ⟨.error fault.report, none, r, s⟩
    | none =>
      let o := Upload.all b setting request (read.1.zipIdx.map fun (e, i) => (⟨0, fresh i⟩, e)) r s
      ⟨o.result.mapError failed, some o.result, o.resolver, o.state⟩

/-- The request that arguments and settings make; the arguments add to the settings. -/
def requestOf (a : UploadArguments) (s : Settings) (baseSpec : Option SpecId) : UploadRequest where
  service := a.service
  trace := a.trace
  append := a.append
  tags := a.tags.foldl (fun t (key, value) => t.insert key value) s.defaultTags
  baseSpec
  includeTrackers := a.includeTrackers || s.includeTrackers
  hostExclusions := s.hostExclusions ++ a.hostExclusions
  pathExclusions := s.pathExclusions ++ a.pathExclusions

/-- A text at the end or the beginning of a field. -/
def rightAligned (width : Nat) (s : String) : String :=
  String.ofList (List.replicate (width - s.length) ' ') ++ s

def leftAligned (width : Nat) (s : String) : String :=
  s ++ String.ofList (List.replicate (width - s.length) ' ')

def bucketLine (d : Direction) (k : EventKind) (b : Bucket) : String :=
  "  " ++ rightAligned 8 d.name ++ " " ++ leftAligned 13 k.name ++ " in=" ++ toString b.input ++
    " forwarded=" ++ toString b.forwarded ++ " filtered=" ++ toString b.filtered

def summaryLines (s : UploadSummary) : List String :=
  let total := s.counts.total
  ["✓ " ++ (if s.created then "Created" else "Appended to") ++ " trace " ++ s.traceName ++ " (" ++
      s.trace.toText ++ ")",
    "  " ++ toString total.input ++ " events read, " ++ toString s.submitted ++ " uploaded in " ++
      toString s.batches ++ " batches, " ++ toString total.filtered ++ " filtered"]

def upload (w : Surroundings) (l : Link σ) (verbose : Nat) (a : UploadArguments) : Step σ Unit := do
  let baseSpec ← a.baseSpec.mapM fun name => do
    let spec ← findSpec l (← serviceId l a.service) name
    return spec.id
  let content := if a.events = "-" then .ok w.input
    else w.files.read (FilePath.follow w.directory a.events)
  let s ← get
  let begin_ := l.network.now s.observed.state
  let setting : UploadSetting := ⟨w.client, l.settings.batch, begin_, w.fresh 0⟩
  let o := uploadEvents (l.transport.backend l.network) setting (requestOf a l.settings baseSpec)
    a.stream (fun i => w.fresh (i + 1)) (EventLines.ofFile a.events content) s.resolver s.observed
  let took := Duration.ofNanos (l.network.now o.state.state - begin_)
  let metrics := match o.upload with
    | some r => Upload.account took r o.state.metrics
    | none => o.state.metrics
  set { s with resolver := o.resolver, observed := { o.state with metrics } }
  let summary ← orReport id o.result
  (summaryLines summary).forM write
  if verbose > 0 then
    summary.counts.toList.forM fun (d, k, b) => write (bucketLine d k b)
    note (metrics.report (.ofNanos (l.network.now o.state.state)))

end Program

end TrafficTrace
