import TrafficTrace.Config.Loading
import TrafficTrace.Program.EventLines
import TrafficTrace.Resolve.Resolver
import TrafficTrace.Transport.Client

/-! A run of the program: what surrounds it, the state that its tasks share, and lookups in the
service. -/
namespace TrafficTrace

/-- What a run of the program finds. -/
structure Surroundings where
  /-- The words after the program's name. -/
  words : List String
  envVar? : String → Option String
  files : FileTree
  home : Option FilePath
  directory : FilePath
  /-- The standard input. -/
  input : ByteArray
  client : Uuid
  /-- Random bytes. -/
  fresh : Nat → Uuid
  /-- When a daemon is interrupted. -/
  interrupt : Instant
  date : Instant → Timestamp

/-- What a run leaves behind. -/
structure Ending where
  code : Nat
  output : String
  /-- Lines for the error output that are no report. -/
  notes : List String
  failure : Option Report
  files : FileTree

namespace Program

/-- A way to the service, and the settings. -/
structure Link (σ : Type) where
  settings : Settings
  transport : Transport Unit
  network : Network σ

structure State (σ : Type) where
  observed : Observed Unit σ
  resolver : Resolver
  output : String
  notes : List String

/-- A step of a task: it may fail, but what it did and wrote so far stays. -/
abbrev Step (σ α : Type) := ExceptT Report (StateM (State σ)) α

variable {σ α ε : Type}

def write (text : String) : Step σ Unit :=
  modify fun s => { s with output := s.output ++ text ++ "\n" }

def note (text : String) : Step σ Unit := modify fun s => { s with notes := s.notes ++ [text] }

def orReport (f : ε → Report) : Except ε α → Step σ α
  | .ok a => pure a
  | .error e => throw (f e)

/-- An exchange with the service. -/
def exchange (f : Observed Unit σ → α × Observed Unit σ) : Step σ α := do
  let s ← get
  let (a, observed) := f s.observed
  set { s with observed }
  return a

def ask (l : Link σ) (c : ServiceCall) : Step σ c.Answer := do
  let r ← exchange (l.transport.call l.network c)
  orReport (fun e => .ofFault e.fault) r

/-- A lookup by name, with the time at which it begins. -/
def lookup (l : Link σ)
    (f : Instant → Resolver → Observed Unit σ → Except ε α × Resolver × Observed Unit σ)
    (report : ε → Report) : Step σ α := do
  let s ← get
  let (r, resolver, observed) := f (l.network.now s.observed.state) s.resolver s.observed
  set { s with resolver, observed }
  orReport report r

def serviceId (l : Link σ) (name : String) : Step σ ServiceId :=
  lookup l (fun now => Resolver.service (l.transport.backend l.network) now name)
    fun e => .ofFault e.fault

def traceId (l : Link σ) (service : ServiceId) (name : String) : Step σ TraceId :=
  lookup l (fun now => Resolver.trace (l.transport.backend l.network) now service name)
    fun e => .ofFault e.fault

/-- A spec by its name, or else by a version label. -/
def findSpec (l : Link σ) (service : ServiceId) (name : String) : Step σ SpecInfo := do
  let found ← exchange (l.transport.resolveName l.network service .spec name)
  match ← orReport (fun e => .ofFault e.fault) found with
  | some (.spec id) => ask l (.getSpec service id)
  | some (.trace id) =>
    throw (.plain (Text.quote name ++ " names trace " ++ id.toText ++ ", not a spec"))
  | none =>
    let r ← exchange (l.transport.call l.network (.getSpecByVersion service name))
    orReport (fun e => (Report.ofFault e.fault).within
      ("No spec or version label named " ++ Text.quote name)) r

end Program

end TrafficTrace
