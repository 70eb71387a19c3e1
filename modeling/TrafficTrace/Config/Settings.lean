import TrafficTrace.Collector.BatchPolicy
import TrafficTrace.Daemon.Config
import TrafficTrace.Fault
import TrafficTrace.Resolve.Cache
import TrafficTrace.Tag
import TrafficTrace.Transport.Settings

/-! The settings that the program runs with, once every source of them has been taken in. -/
namespace TrafficTrace

/-- What can go wrong with a configuration. -/
inductive ConfigError where
  | notFound (text : String)
  | invalidValue (field message : String)
  | io (text : String)
  | yaml (text : String)
  | json (text : String)
deriving DecidableEq, Repr

namespace ConfigError

def message : ConfigError → String
  | notFound text => "Config file not found: " ++ text
  | invalidValue field message => "Invalid value for " ++ field ++ ": " ++ message
  | io text => "IO error reading config: " ++ text
  | yaml text => "YAML parsing error: " ++ text
  | json text => "JSON parsing error: " ++ text

def fault (e : ConfigError) : Fault :=
  match e with
  | notFound _ => .plain "NotFound" e.message
  | invalidValue _ _ => .plain "InvalidValue" e.message
  | io _ => .plain "IoError" e.message
  | yaml text => .mk "YamlError" e.message (some (.document text)) none
  | json text => .mk "JsonError" e.message (some (.document text)) none

end ConfigError

structure Settings where
  transport : TransportSettings
  cacheFresh : Duration
  cacheHard : Duration
  batch : BatchPolicy
  daemon : DaemonConfig
  defaultTags : TagSet
  includeTrackers : Bool
  hostExclusions : List String
  pathExclusions : List String
deriving DecidableEq, Repr

namespace Settings

def standard : Settings :=
  { transport := .standard
    cacheFresh := Cache.standardFresh
    cacheHard := Cache.standardHard
    batch := .standard
    daemon := .standard
    defaultTags := .empty
    includeTrackers := false
    hostExclusions := []
    pathExclusions := [] }

/-- What is required of settings, as the field that is named, whether it is wrong, and how. -/
def checks (s : Settings) : List (String × Bool × String) :=
  let t := s.transport
  [("domain", Text.isAllBlank t.domain, "must not be empty"),
    ("retry.maxAttempts", t.retry.maxAttempts = 0, "must be at least 1"),
    ("retry.maxWaitMs", t.retry.maxWait < t.retry.minWait, "must not be below retry.minWaitMs"),
    ("cache.hardSecs", s.cacheHard < s.cacheFresh, "must not be below cache.freshSecs"),
    ("batch.maxBatchSize", s.batch.maxSize = 0, "must be at least 1"),
    ("daemon.pollTimeoutSecs", s.daemon.pollTimeout = .zero, "must be positive"),
    ("daemon.heartbeatIntervalSecs", s.daemon.heartbeatInterval = .zero, "must be positive"),
    ("daemon.errorBackoffSecs", s.daemon.errorBackoff = .zero, "must be positive"),
    ("daemon.maxErrorBackoffSecs", s.daemon.maxErrorBackoff < s.daemon.errorBackoff,
      "must not be below daemon.errorBackoffSecs"),
    ("requestTimeoutSecs", t.requestTimeout = .zero, "must be positive")]

/-- Refuses settings under which the program would not work; the first problem is named. -/
def validate (s : Settings) : Except ConfigError Unit :=
  match s.checks.find? (·.2.1) with
  | some (field, _, problem) => .error (.invalidValue field problem)
  | none => .ok ()

def optional (s : Option String) : Json := .orNull (s.map .str)

/-- The settings without the secrets. -/
def toJson (s : Settings) : Json :=
  let t := s.transport
  .obj [("domain", .str t.domain),
    ("baseUrl", optional t.baseUrl),
    ("allowInsecureHttp", .bool t.allowInsecureHttp),
    ("credentials", optional (t.credentials.map Credentials.kind)),
    ("proxy", optional t.proxy),
    ("skipTlsVerify", .bool t.skipTlsVerify),
    ("tlsServerName", optional t.tlsServerName),
    ("requestTimeoutSecs", .ofNat t.requestTimeout.secs),
    ("retry", .obj [("minWaitMs", .ofNat (t.retry.minWait.millis % UInt64.size)),
      ("maxWaitMs", .ofNat (t.retry.maxWait.millis % UInt64.size)),
      ("maxAttempts", .ofNat t.retry.maxAttempts)]),
    ("cache", .obj [("freshSecs", .ofNat s.cacheFresh.secs), ("hardSecs", .ofNat s.cacheHard.secs)]),
    ("batch", s.batch.toJson),
    ("daemon", s.daemon.toJson),
    ("defaultTags", s.defaultTags.toJson),
    ("includeTrackers", .bool s.includeTrackers),
    ("hostExclusions", .arr (s.hostExclusions.map .str)),
    ("pathExclusions", .arr (s.pathExclusions.map .str))]

/-- The settings as they are shown, with members in the order of their names. -/
def display (s : Settings) : Json := s.toJson.sorted

end Settings

end TrafficTrace
