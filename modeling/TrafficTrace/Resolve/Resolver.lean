import TrafficTrace.Backend
import TrafficTrace.Resolve.Cache
import TrafficTrace.Resolve.Error
import TrafficTrace.Text.Lowercase

/-! The lookup of services and traces by name. A name that was seen lately is answered from a cache;
for any other the backend lists everything it has, and the whole list goes into the cache. Names are
compared without case and without the blanks around them; of two entries with one name the later
counts. That a name is unknown is never kept. A lookup takes no time: what it lists is as old as its
question. -/
namespace TrafficTrace

structure Resolver where
  services : Cache String ServiceId
  traces : Cache (ServiceId × String) TraceId

namespace Resolver

def empty (fresh hard : Duration) : Resolver := ⟨.empty fresh hard, .empty fresh hard⟩

def standard : Resolver := empty Cache.standardFresh Cache.standardHard

/-- The form in which names are compared. -/
def normalize (name : String) : String := Text.lower (Text.trim name)

/-- The names and identifiers of a listing, without those that name nothing. -/
def listed {k : IdKind} (items : List (String × Id k)) : List (String × Id k) :=
  (items.filter fun i => !i.2.isNil).map fun i => (normalize i.1, i.2)

def listedServices (services : List ServiceSummary) : List (String × ServiceId) :=
  listed (services.map fun s => (s.name, s.id))

def listedTraces (traces : List TraceInfo) : List (String × TraceId) :=
  listed (traces.map fun t => (t.name, t.id))

/-- The last entry under the name. -/
def lastNamed {k : IdKind} (key : String) (items : List (String × Id k)) : Option (Id k) :=
  items.reverse.lookup key

variable {σ : Type}

def service (b : Backend σ) (now : Instant) (name : String) (r : Resolver) (s : σ) :
    Except ResolveError ServiceId × Resolver × σ :=
  let key := normalize name
  match r.services.get? now key with
  | some id => (.ok id, r, s)
  | none =>
    match b.listServices s with
    | (.error e, s) => (.error (.backend .service name e), r, s)
    | (.ok services, s) =>
      let items := listedServices services
      let r := { r with services := r.services.populate now items }
      match lastNamed key items with
      | some id => (.ok id, r, s)
      | none => (.error (.notFound .service name), r, s)

/-- Traces are looked up within their service. -/
def trace (b : Backend σ) (now : Instant) (service : ServiceId) (name : String) (r : Resolver)
    (s : σ) : Except ResolveError TraceId × Resolver × σ :=
  let key := normalize name
  match r.traces.get? now (service, key) with
  | some id => (.ok id, r, s)
  | none =>
    match b.listTraces service .empty s with
    | (.error e, s) => (.error (.backend .trace name e), r, s)
    | (.ok traces, s) =>
      let items := listedTraces traces
      let keyed := items.map fun i => ((service, i.1), i.2)
      let r := { r with traces := r.traces.populate now keyed }
      match lastNamed key items with
      | some id => (.ok id, r, s)
      | none => (.error (.notFound .trace name), r, s)

/-- Keeps a trace that was just created. -/
def remember (now : Instant) (service : ServiceId) (name : String) (id : TraceId) (r : Resolver) :
    Resolver :=
  if id.isNil then r else { r with traces := r.traces.put now (service, normalize name) id }

def clear (r : Resolver) : Resolver := ⟨r.services.clear, r.traces.clear⟩

end Resolver

end TrafficTrace
