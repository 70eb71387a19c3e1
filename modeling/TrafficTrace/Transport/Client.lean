import TrafficTrace.Backend
import TrafficTrace.Daemon.LongPoll
import TrafficTrace.Transport.Calls

/-! The service behind a transport: what an upload and a daemon ask of it, and the names of specs. -/
namespace TrafficTrace

namespace Transport

variable {ρ σ : Type}

/-- Makes a call of the service. One whose timeout is too long to be measured is not made. -/
def call (t : Transport ρ) (n : Network σ) (c : ServiceCall) (s : Observed ρ σ) :
    Except TransportError c.Answer × Observed ρ σ :=
  match c.request? with
  | some r => t.send n ⟨r, c.answer⟩ s
  | none => (.error (.config "timeout too long"), s)

/-- The traces of a service that have the tags, whether or not the service sorted them out. -/
def listTraces (t : Transport ρ) (n : Network σ) (service : ServiceId) (tags : TagSet)
    (s : Observed ρ σ) : Except TransportError (List TraceInfo) × Observed ρ σ :=
  let (r, s) := t.call n (.listTraces service tags) s
  (r.map fun traces => traces.filter (·.tags.covers tags), s)

/-- The identifier in the answer to a name. The value of all zeros is no identifier. -/
def resourceOf (kind : ResourceKind) (r : ResolvedName) : Except TransportError (Option ResourceId) :=
  let read (k : IdKind) (wrap : Id k → ResourceId) : Except TransportError (Option ResourceId) :=
    match Id.ofText k r.id with
    | .ok i => .ok (if i.isNil then none else some (wrap i))
    | .error e => .error (.decode e.message)
  match kind with
  | .trace => read .trace .trace
  | .spec => read .spec .spec

/-- What a name stands for; none if the service does not know the name. -/
def resolveName (t : Transport ρ) (n : Network σ) (service : ServiceId) (kind : ResourceKind)
    (name : String) (s : Observed ρ σ) : Except TransportError (Option ResourceId) × Observed ρ σ :=
  let (r, s) := t.call n (.resolveName service kind name) s
  (match r with
    | .ok found => resourceOf kind found
    | .error e => if e.isNotFound then .ok none else .error e, s)

/-- The service as an upload sees it. -/
def backend (t : Transport ρ) (n : Network σ) : Backend (Observed ρ σ) where
  listServices := t.call n .listServices
  listTraces := t.listTraces n
  createTrace service r := t.call n (.createTrace service r)
  appendEvents service trace batch := t.call n (.appendEvents service trace batch)

/-- An answer with the time that it took. There is none to a call that is not made. -/
def reply (t : Transport ρ) (n : Network σ) (c : ServiceCall) (s : Observed ρ σ) :
    Reply c.Answer × Observed ρ σ :=
  let (r, after) := t.call n c s
  let delay := c.request?.map fun _ => n.now after.state - n.now s.state
  (⟨delay, r⟩, after)

/-- The service as a daemon sees it; `date` is the date of a moment. -/
def directory (t : Transport ρ) (n : Network σ) (date : Instant → Timestamp) :
    Directory (Observed ρ σ) where
  activeTraces service known timeout := t.reply n (.activeTraces service known timeout)
  deactivation service trace timeout := t.reply n (.deactivation service trace timeout)
  heartbeat service active s :=
    t.reply n (.heartbeat service ⟨t.client, version, active, date (n.now s.state)⟩) s

end Transport

end TrafficTrace
