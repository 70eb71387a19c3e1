import TrafficTrace.Config.File
import TrafficTrace.Config.Settings
import TrafficTrace.Text.Blank

/-! The sources of settings, from the lowest to the highest: the global file, the file of the
workspace, the local file, the environment, the command line. A higher source replaces single values.
Credentials are replaced as a whole, and only by a source that has a complete set. Tags and
exclusions add up. -/
namespace TrafficTrace

/-- What environment variables may set. -/
structure EnvironmentSettings where
  apiKey : Option String
  environment : Option String
  apiKeyId : Option String
  apiKeySecret : Option String
  domain : Option String
  proxy : Option String
deriving DecidableEq, Repr

namespace EnvironmentSettings

def none : EnvironmentSettings := ⟨.none, .none, .none, .none, .none, .none⟩

/-- The variables that are looked up. -/
def lookedUp : List String :=
  ["TRACEHOUND_API_KEY", "TRACEHOUND_ENV", "TRACEHOUND_API_KEY_ID", "TRACEHOUND_API_KEY_SECRET",
    "TRACEHOUND_DOMAIN", "TRACEHOUND_PROXY"]

/-- A blank variable counts as absent; any other value is kept with the blanks around it. -/
def ofLookup (lookup : String → Option String) : EnvironmentSettings :=
  let get (name : String) := (lookup name).filter fun v => !Text.isAllBlank v
  { apiKey := get "TRACEHOUND_API_KEY"
    environment := get "TRACEHOUND_ENV"
    apiKeyId := get "TRACEHOUND_API_KEY_ID"
    apiKeySecret := get "TRACEHOUND_API_KEY_SECRET"
    domain := get "TRACEHOUND_DOMAIN"
    proxy := get "TRACEHOUND_PROXY" }

end EnvironmentSettings

/-- What the command line may set. -/
structure CommandOptions where
  domain : Option String
  baseUrl : Option String
  allowInsecureHttp : Option Bool
  proxy : Option String
  skipTlsVerify : Option Bool
  tlsServerName : Option String
  requestTimeoutSecs : Option UInt64
deriving DecidableEq, Repr

def CommandOptions.none : CommandOptions := ⟨.none, .none, .none, .none, .none, .none, .none⟩

/-- All sources. -/
structure Layers where
  global : Option ConfigFile
  workspace : Option ConfigFile
  personal : Option ConfigFile
  environment : EnvironmentSettings
  command : CommandOptions
deriving DecidableEq, Repr

namespace Config

def secs (n : UInt64) : Duration := .ofSecs n.toNat
def millis (n : UInt64) : Duration := .ofMillis n.toNat

/-- The items of the second list that are not there yet are put at the end. -/
def extend (xs ys : List String) : List String :=
  ys.foldl (fun acc y => if y ∈ acc then acc else acc ++ [y]) xs

/-- Complete credentials replace those so far; half a pair is only remembered. -/
def withCredentials (t : TransportSettings) (given : Except MissingCredential Credentials) :
    TransportSettings :=
  match given with
  | .ok c => { t with credentials := some c }
  | .error .any => t
  | .error missing => { t with missing }

def fileCredentials (f : ConfigFile) : Except MissingCredential Credentials :=
  Credentials.resolve f.apiKey f.apiKeyEnvironment f.apiKeyId f.apiKeySecret

def environmentCredentials (e : EnvironmentSettings) : Except MissingCredential Credentials :=
  Credentials.resolve e.apiKey e.environment e.apiKeyId e.apiKeySecret

def withRetry (p : RetryPolicy) (s : RetrySection) : RetryPolicy :=
  { minWait := (s.minWaitMs.map millis).getD p.minWait
    maxWait := (s.maxWaitMs.map millis).getD p.maxWait
    maxAttempts := (s.maxAttempts.map (·.toNat)).getD p.maxAttempts }

def withBatch (p : BatchPolicy) (s : BatchSection) : BatchPolicy :=
  { maxSize := (s.maxBatchSize.map (·.toNat)).getD p.maxSize
    maxAge := (s.maxBatchAgeMs.map millis).getD p.maxAge }

def withDaemon (c : DaemonConfig) (s : DaemonSection) : DaemonConfig :=
  { c with
    pollTimeout := (s.pollTimeoutSecs.map secs).getD c.pollTimeout
    heartbeatInterval := (s.heartbeatIntervalSecs.map secs).getD c.heartbeatInterval
    errorBackoff := (s.errorBackoffSecs.map secs).getD c.errorBackoff
    maxErrorBackoff := (s.maxErrorBackoffSecs.map secs).getD c.maxErrorBackoff }

def transportWithFile (t : TransportSettings) (f : ConfigFile) : TransportSettings :=
  { withCredentials t (fileCredentials f) with
    domain := f.domain.getD t.domain
    baseUrl := f.baseUrl <|> t.baseUrl
    allowInsecureHttp := f.allowInsecureHttp.getD t.allowInsecureHttp
    proxy := f.proxy <|> t.proxy
    skipTlsVerify := f.skipTlsVerify.getD t.skipTlsVerify
    tlsServerName := f.tlsServerName <|> t.tlsServerName
    retry := (f.retry.map (withRetry t.retry)).getD t.retry
    requestTimeout := (f.requestTimeoutSecs.map secs).getD t.requestTimeout }

def withFile (s : Settings) (f : ConfigFile) : Settings :=
  { transport := transportWithFile s.transport f
    cacheFresh := ((f.cache.bind (·.freshSecs)).map secs).getD s.cacheFresh
    cacheHard := ((f.cache.bind (·.hardSecs)).map secs).getD s.cacheHard
    batch := (f.batch.map (withBatch s.batch)).getD s.batch
    daemon := (f.daemon.map (withDaemon s.daemon)).getD s.daemon
    defaultTags := (f.defaultTags.map s.defaultTags.merge).getD s.defaultTags
    includeTrackers := f.includeTrackers.getD s.includeTrackers
    hostExclusions := extend s.hostExclusions (f.hostExclusions.getD [])
    pathExclusions := extend s.pathExclusions (f.pathExclusions.getD []) }

def withEnvironment (s : Settings) (e : EnvironmentSettings) : Settings :=
  let t := withCredentials s.transport (environmentCredentials e)
  { s with transport := { t with domain := e.domain.getD t.domain, proxy := e.proxy <|> t.proxy } }

def withCommand (s : Settings) (c : CommandOptions) : Settings :=
  let t := s.transport
  { s with
    transport := { t with
      domain := c.domain.getD t.domain
      baseUrl := c.baseUrl <|> t.baseUrl
      allowInsecureHttp := c.allowInsecureHttp.getD t.allowInsecureHttp
      proxy := c.proxy <|> t.proxy
      skipTlsVerify := c.skipTlsVerify.getD t.skipTlsVerify
      tlsServerName := c.tlsServerName <|> t.tlsServerName
      requestTimeout := (c.requestTimeoutSecs.map secs).getD t.requestTimeout } }

end Config

namespace Layers

def files (l : Layers) : List ConfigFile := [l.global, l.workspace, l.personal].filterMap id

/-- The settings that all sources amount to. -/
def merge (l : Layers) : Settings :=
  Config.withCommand
    (Config.withEnvironment (l.files.foldl Config.withFile .standard) l.environment) l.command

end Layers

end TrafficTrace
