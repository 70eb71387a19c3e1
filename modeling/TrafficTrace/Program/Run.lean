import TrafficTrace.CommandLine.Reader
import TrafficTrace.Daemon.Session
import TrafficTrace.Json.Printer
import TrafficTrace.Program.Upload

/-! The tasks of the program, and a run from its words to its ending. -/
namespace TrafficTrace

namespace Program

variable {σ : Type}

def services (l : Link σ) (asJson : Bool) : Step σ Unit := do
  let services ← ask l .listServices
  if asJson then write (Json.arr (services.map ServiceSummary.toJson)).toIndentedText
  else if services.isEmpty then write "No services found"
  else services.forM fun s => write (s.id.toText ++ "  " ++ s.name)

def resolve (l : Link σ) (service : String) (trace : Option String) : Step σ Unit := do
  let id ← serviceId l service
  write (service ++ "  " ++ id.toText)
  trace.forM fun trace => do
    let id ← traceId l id trace
    write (trace ++ "  " ++ id.toText)

def specLines (s : SpecInfo) (content : Bool) : List String :=
  let versions := if s.versionLabels.isEmpty then []
    else ["  versions: " ++ ", ".intercalate s.versionLabels]
  [s.name ++ "  " ++ s.id.toText, "  state: " ++ s.state.name.capitalize] ++ versions ++
    s.tags.entries.map (fun (key, value) => "  " ++ key ++ "=" ++ value) ++
    if content then ["", s.content] else []

def spec (l : Link σ) (service name : String) (content : Bool) : Step σ Unit := do
  let found ← findSpec l (← serviceId l service) name
  (specLines found content).forM write

def diffLines (d : SpecDiff) : List String :=
  let line (mark : String) (c : EndpointChange) : String := mark ++ " " ++ c.method ++ " " ++ c.path
  let changed (c : EndpointChange) : String := line "~" c ++ " (" ++ c.change ++ ")"
  match d.added.map (line "+") ++ d.removed.map (line "-") ++ d.modified.map changed with
  | [] => ["No differences"]
  | ls => ls

def diff (l : Link σ) (service base head : String) : Step σ Unit := do
  let service ← serviceId l service
  let base ← findSpec l service base
  let head ← findSpec l service head
  let d ← ask l (.getSpecDiff service base.id head.id)
  (diffLines d).forM write

/-- Enough steps for a daemon until its interruption. -/
def daemonFuel (interrupt : Instant) : Nat := interrupt / 1000000 + 1000

/-- Runs the daemon of a service until the interruption, and tells whether it ended well. -/
def follow (w : Surroundings) (l : Link σ) (name : String) (service : ServiceId) : Step σ Bool := do
  let g : SessionSetting (Observed Unit σ) :=
    ⟨l.transport.directory l.network w.date, service, l.settings.daemon, 0⟩
  let result ← exchange fun observed =>
    let (r, session) := runDaemon g false [(w.interrupt, .published true)] (daemonFuel w.interrupt)
      observed
    (r, session.state)
  match result with
  | .ok r =>
    write ("✓ " ++ name ++ ": " ++ toString r.activations ++ " activations, " ++
      toString r.deactivations ++ " deactivations, " ++ toString r.pollErrors ++ " poll errors")
    return true
  | .error e =>
    note ("✗ " ++ name ++ ": " ++ e.message)
    return false

/-- All services are looked up before the first daemon runs. -/
def daemons (w : Surroundings) (l : Link σ) (names : List String) : Step σ Unit := do
  let found ← names.mapM fun name => do
    let id ← lookup l (fun now => daemonService (l.transport.backend l.network) now name)
      fun e => .ofFault e.fault
    return (name, id)
  let ended ← found.mapM fun (name, id) => follow w l name id
  if ended.contains false then throw (.plain "One or more daemons failed")

/-- The tasks that need the service. -/
def perform (w : Surroundings) (l : Link σ) (i : Invocation) : Step σ Unit :=
  match i.task with
  | .services asJson => services l asJson
  | .upload a => upload w l i.verbose a
  | .resolve service trace => resolve l service trace
  | .spec service name content => spec l service name content
  | .diff service base head => diff l service base head
  | .daemon names => daemons w l names
  | .showSettings | .createSettings | .version => pure ()

/-- The settings of the workspace around the directory. -/
def loadSettings (w : Surroundings) (options : CommandOptions) : Except Report Settings :=
  let root := (Config.findWorkspace? w.files w.directory).getD w.directory
  (Config.loadSettings w.files (w.home.map (· ++ Config.globalPlace)) root
    (.ofLookup w.envVar?) options).mapError fun e =>
      (Report.ofFault e.fault).within "Failed to load configuration"

def ended (w : Surroundings) (output : String) : Ending := ⟨0, output, [], none, w.files⟩

def failed (w : Surroundings) (report : Report) : Ending := ⟨1, "", [], some report, w.files⟩

/-- Performs a task with the service, and gives the state in which the network is left. -/
def runTask (w : Surroundings) (n : Network σ) (s : σ) (i : Invocation) : Ending × σ :=
  match loadSettings w i.options with
  | .error report => (failed w report, s)
  | .ok settings =>
    match Transport.new settings.transport w.client (⟨some ()⟩ : FailureReporter Unit) with
    | .error e => (failed w ((Report.ofFault e.fault).within "Failed to set up the API client"), s)
    | .ok transport =>
      let start : State σ :=
        ⟨⟨s, .empty, []⟩, .empty settings.cacheFresh settings.cacheHard, "", []⟩
      let (result, last) := (perform w ⟨settings, transport, n⟩ i).run start
      let ending : Ending := match result with
        | .ok () => ⟨0, last.output, last.notes, none, w.files⟩
        | .error report => ⟨1, last.output, last.notes, some report, w.files⟩
      (ending, last.observed.state)

def versionLine : String := "tracehound " ++ version ++ "\n"

/-- How a run ends whose words are not a task. Problems with them give code 2. -/
def stopped (w : Surroundings) : CommandLine.Stop → Ending
  | .version => ended w versionLine
  | .description text true => ended w text
  | .description text false => ⟨2, "", [text], none, w.files⟩
  | .usage e => ⟨2, "", [e.toText], none, w.files⟩

/-- Shows the settings. -/
def showSettings (w : Surroundings) (options : CommandOptions) : Ending :=
  match loadSettings w options with
  | .ok settings => ended w (settings.display.toIndentedText ++ "\n")
  | .error report => failed w report

/-- Writes the starter file. -/
def createSettings (w : Surroundings) : Ending :=
  match Config.create w.files w.directory with
  | .ok (files, place) => { ended w ("✓ Created " ++ files.display place ++ "\n") with files }
  | .error e => failed w (.ofFault e.fault)

/-- Runs the program. A task that fails gives code 1. -/
def run (w : Surroundings) (n : Network σ) (s : σ) : Ending × σ :=
  match Invocation.read w.words with
  | .error stop => (stopped w stop, s)
  | .ok i =>
    match i.task with
    | .version => (ended w versionLine, s)
    | .showSettings => (showSettings w i.options, s)
    | .createSettings => (createSettings w, s)
    | _ => runTask w n s i

end Program

end TrafficTrace
