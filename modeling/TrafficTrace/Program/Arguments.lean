import TrafficTrace.CommandLine.Reader
import TrafficTrace.Config.Layers
import TrafficTrace.Tag

/-! What the program can be asked to do, and how it is asked. -/
namespace TrafficTrace

open CommandLine

structure UploadArguments where
  service : String
  trace : Option String
  append : Bool
  tags : List (String × String)
  /-- The name or version label of the spec that a new trace extends. -/
  baseSpec : Option String
  includeTrackers : Bool
  hostExclusions : List String
  pathExclusions : List String
  /-- The file with the events; a hyphen stands for the standard input. -/
  events : String
  /-- Events are sent as they are read. -/
  stream : Bool
deriving DecidableEq, Repr

inductive Task where
  | services (asJson : Bool)
  | upload (arguments : UploadArguments)
  | resolve (service : String) (trace : Option String)
  | spec (service spec : String) (content : Bool)
  | diff (service base head : String)
  | daemon (services : List String)
  | showSettings
  | createSettings
  | version
deriving DecidableEq, Repr

structure Invocation where
  verbose : Nat
  options : CommandOptions
  task : Task
deriving DecidableEq, Repr

namespace Invocation

/-- A number with one more digit, if it still has 64 bits. -/
def addDigit (n : Nat) (c : Char) : Except String Nat :=
  if c < '0' || '9' < c then .error "invalid digit found in string"
  else
    let n := n * 10 + (c.toNat - 48)
    if n < UInt64.size then .ok n else .error "number too large to fit in target type"

/-- Reads a number of 64 bits, from the first digit on. -/
def readWord64 (text : String) : Except String UInt64 :=
  match text.toList with
  | [] => .error "cannot parse integer from empty string"
  | '+' :: c :: cs => ((c :: cs).foldlM addDigit 0).map UInt64.ofNat
  | cs => (cs.foldlM addDigit 0).map UInt64.ofNat

def anyText (_ : String) : Option Refusal := none

def isWord64 (text : String) : Option Refusal :=
  match readWord64 text with
  | .ok _ => none
  | .error reason => some (.because reason)

def isTag (text : String) : Option Refusal :=
  match readTag text with
  | .ok _ => none
  | .error e => some (.because e.message)

def isFileName (text : String) : Option Refusal := if text = "" then some .empty else none

/-- The switches of all commands. -/
def shared : List Switch := [
  ⟨"verbose", some 'v', "verbose", .count, "", "More log output (-v info, -vv debug, -vvv trace)",
    none, 0, anyText⟩,
  .single 1 "domain" "DOMAIN" "Backend domain; the API is reached at api.<domain>" none anyText,
  .single 2 "base-url" "BASE_URL" "Full API base URL, overriding --domain" none anyText,
  .flag 3 "allow-insecure-http" "Permit a plain http:// base URL (local test backends)" none,
  .single 4 "proxy" "PROXY" "Forward proxy URL" none anyText,
  .flag 5 "skip-tls-verify" "Accept any server certificate (debugging only)" none,
  .single 6 "tls-server-name" "TLS_SERVER_NAME"
    "Expected name on the server certificate (debugging only)" none anyText,
  .single 7 "timeout" "TIMEOUT" "Per-request timeout in seconds" none isWord64]

def command (name about : String) (own : List Switch) (operands : List Operand)
    (commands : List Command) : Command :=
  ⟨name, about, own ++ shared ++ [.help], operands,
    if commands.isEmpty then [] else commands ++ [.help], false⟩

def serviceOperand : Operand := ⟨"SERVICE", "", true, false⟩

def uploadCommand : Command :=
  command "upload" "Upload captured events into a trace"
    [.single 0 "trace" "TRACE" "Target trace; a random name is generated when omitted" (some 't')
      anyText,
    .flag 1 "append" "Add to the trace if it already exists" (some 'a'),
    .repeated 2 "tag" "TAGS" "Tag for a newly created trace, as KEY=VALUE (repeatable)" isTag,
    .single 3 "base-spec" "BASE_SPEC" "Spec (name or version label) the new trace extends" none
      anyText,
    .flag 4 "include-trackers" "Keep events addressed to known analytics and tracking hosts" none,
    .repeated 5 "host-exclusion" "HOST_EXCLUSIONS"
      "Drop events whose host matches this regex (repeatable)" anyText,
    .repeated 6 "path-exclusion" "PATH_EXCLUSIONS"
      "Drop events whose path matches this regex (repeatable)" anyText,
    { Switch.single 7 "events" "EVENTS" "JSON Lines file of captured events, or - for stdin"
        (some 'e') isFileName with initial := some "-" },
    .flag 8 "stream" "Upload events as they are read instead of loading them first" none]
    [serviceOperand] []

def commands : List Command := [
  command "services" "List the services visible to your credentials"
    [.flag 0 "json" "Print JSON instead of a table" none] [] [],
  uploadCommand,
  command "resolve" "Print the identifier behind a service or trace name" []
    [serviceOperand, ⟨"TRACE", "", false, false⟩] [],
  command "spec" "Show a spec by name or version label"
    [.flag 0 "content" "Print the spec content" none]
    [serviceOperand, ⟨"SPEC", "Spec name or version label", true, false⟩] [],
  command "diff" "Compare two specs" []
    [serviceOperand, ⟨"BASE", "", true, false⟩, ⟨"HEAD", "", true, false⟩] [],
  command "daemon" "Follow the active traces of one or more services until interrupted" []
    [⟨"SERVICES", "", true, true⟩] [],
  command "config" "Show or create configuration" [] [] [
    command "show" "Show the merged configuration (secrets hidden)" [] [] [],
    command "init" "Write a starter .tracehound.json in the current directory" [] [] []],
  command "version" "Show version information" [] [] []]

/-- The program as a command. -/
def program : Command :=
  let c := command "tracehound" "Sync observed API traffic with your trace backend" [] [] commands
  { c with switches := c.switches ++ [.version], needsCommand := true }

def optionsOf (p : Parsed) : CommandOptions where
  domain := p.value? "domain"
  baseUrl := p.value? "base-url"
  allowInsecureHttp := if p.has "allow-insecure-http" then some true else none
  proxy := p.value? "proxy"
  skipTlsVerify := if p.has "skip-tls-verify" then some true else none
  tlsServerName := p.value? "tls-server-name"
  requestTimeoutSecs := (p.value? "timeout").bind fun s => (readWord64 s).toOption

def uploadOf (p : Parsed) (service : String) : UploadArguments where
  service
  trace := p.value? "trace"
  append := p.has "append"
  tags := (p.values "tag").filterMap fun s => (readTag s).toOption
  baseSpec := p.value? "base-spec"
  includeTrackers := p.has "include-trackers"
  hostExclusions := p.values "host-exclusion"
  pathExclusions := p.values "path-exclusion"
  events := (p.value? "events").getD "-"
  stream := p.has "stream"

def taskOf (p : Parsed) : Task :=
  let operand (name : String) : String := (p.value? name).getD ""
  let service := operand "SERVICE"
  match p.path.tail with
  | "services" :: _ => .services (p.has "json")
  | "upload" :: _ => .upload (uploadOf p service)
  | "resolve" :: _ => .resolve service (p.value? "TRACE")
  | "spec" :: _ => .spec service (operand "SPEC") (p.has "content")
  | "diff" :: _ => .diff service (operand "BASE") (operand "HEAD")
  | "daemon" :: _ => .daemon (p.values "SERVICES")
  | ["config", "init"] => .createSettings
  | "config" :: _ => .showSettings
  | _ => .version

/-- Reads the words after the name of the program. -/
def read (words : List String) : Except Stop Invocation :=
  (CommandLine.read program words).map fun p =>
    ⟨min (p.values "verbose").length 255, optionsOf p, taskOf p⟩

example : (read ["-v", "resolve", "s", "--timeout", "5", "-v"]).toOption =
    some ⟨1, { CommandOptions.none with requestTimeoutSecs := some 5 }, .resolve "s" none⟩ := by
  decide +kernel

end Invocation

end TrafficTrace
