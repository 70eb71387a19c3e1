import TrafficTrace.Document.Record
import TrafficTrace.Tag

/-! What a configuration file may contain. Every field may be missing. -/
namespace TrafficTrace

open Document

namespace Config

/-- A number of 64 bits, at least in the text. -/
def word64 : Decoder UInt64 := fun n => (Decoder.nat64 n).map .ofNat
def word32 : Decoder UInt32 := fun n => (Decoder.nat32 n).map .ofNat

def number64 (n : UInt64) : Json := .ofNat n.toNat
def number32 (n : UInt32) : Json := .ofNat n.toNat

def texts : Decoder (List String) := Decoder.list Decoder.text
def textsJson (ts : List String) : Json := .arr (ts.map .str)

structure RetrySection where
  minWaitMs : Option UInt64
  maxWaitMs : Option UInt64
  maxAttempts : Option UInt32
deriving DecidableEq, Repr

namespace RetrySection

def record : Record RetrySection :=
  mk <$> Record.nullable "minWaitMs" word64 <*> Record.nullable "maxWaitMs" word64
    <*> Record.nullable "maxAttempts" word32

def toJson (s : RetrySection) : Json :=
  .obj [("minWaitMs", .orNull (s.minWaitMs.map number64)),
    ("maxWaitMs", .orNull (s.maxWaitMs.map number64)),
    ("maxAttempts", .orNull (s.maxAttempts.map number32))]

end RetrySection

structure CacheSection where
  freshSecs : Option UInt64
  hardSecs : Option UInt64
deriving DecidableEq, Repr

namespace CacheSection

def record : Record CacheSection :=
  mk <$> Record.nullable "freshSecs" word64 <*> Record.nullable "hardSecs" word64

def toJson (s : CacheSection) : Json :=
  .obj [("freshSecs", .orNull (s.freshSecs.map number64)),
    ("hardSecs", .orNull (s.hardSecs.map number64))]

end CacheSection

structure BatchSection where
  maxBatchSize : Option UInt64
  maxBatchAgeMs : Option UInt64
deriving DecidableEq, Repr

namespace BatchSection

def record : Record BatchSection :=
  mk <$> Record.nullable "maxBatchSize" word64 <*> Record.nullable "maxBatchAgeMs" word64

def toJson (s : BatchSection) : Json :=
  .obj [("maxBatchSize", .orNull (s.maxBatchSize.map number64)),
    ("maxBatchAgeMs", .orNull (s.maxBatchAgeMs.map number64))]

end BatchSection

structure DaemonSection where
  pollTimeoutSecs : Option UInt64
  heartbeatIntervalSecs : Option UInt64
  errorBackoffSecs : Option UInt64
  maxErrorBackoffSecs : Option UInt64
deriving DecidableEq, Repr

namespace DaemonSection

def record : Record DaemonSection :=
  mk <$> Record.nullable "pollTimeoutSecs" word64 <*> Record.nullable "heartbeatIntervalSecs" word64
    <*> Record.nullable "errorBackoffSecs" word64 <*> Record.nullable "maxErrorBackoffSecs" word64

def toJson (s : DaemonSection) : Json :=
  .obj [("pollTimeoutSecs", .orNull (s.pollTimeoutSecs.map number64)),
    ("heartbeatIntervalSecs", .orNull (s.heartbeatIntervalSecs.map number64)),
    ("errorBackoffSecs", .orNull (s.errorBackoffSecs.map number64)),
    ("maxErrorBackoffSecs", .orNull (s.maxErrorBackoffSecs.map number64))]

end DaemonSection

end Config

open Config in
structure ConfigFile where
  domain : Option String
  baseUrl : Option String
  allowInsecureHttp : Option Bool
  apiKey : Option String
  apiKeyEnvironment : Option String
  apiKeyId : Option String
  apiKeySecret : Option String
  proxy : Option String
  skipTlsVerify : Option Bool
  tlsServerName : Option String
  requestTimeoutSecs : Option UInt64
  retry : Option RetrySection
  cache : Option CacheSection
  batch : Option BatchSection
  daemon : Option DaemonSection
  defaultTags : Option TagSet
  includeTrackers : Option Bool
  hostExclusions : Option (List String)
  pathExclusions : Option (List String)
deriving DecidableEq, Repr

namespace ConfigFile

open Config

def empty : ConfigFile :=
  ⟨none, none, none, none, none, none, none, none, none, none, none, none, none, none, none, none,
    none, none, none⟩

instance : Inhabited ConfigFile := ⟨empty⟩

def record : Record ConfigFile :=
  mk <$> Record.nullable "domain" Decoder.text
    <*> Record.nullable "baseUrl" Decoder.text
    <*> Record.nullable "allowInsecureHttp" Decoder.bool
    <*> Record.nullable "apiKey" Decoder.text
    <*> Record.nullable "apiKeyEnvironment" Decoder.text
    <*> Record.nullable "apiKeyId" Decoder.text
    <*> Record.nullable "apiKeySecret" Decoder.text
    <*> Record.nullable "proxy" Decoder.text
    <*> Record.nullable "skipTlsVerify" Decoder.bool
    <*> Record.nullable "tlsServerName" Decoder.text
    <*> Record.nullable "requestTimeoutSecs" word64
    <*> Record.nullable "retry" RetrySection.record.decode
    <*> Record.nullable "cache" CacheSection.record.decode
    <*> Record.nullable "batch" BatchSection.record.decode
    <*> Record.nullable "daemon" DaemonSection.record.decode
    <*> Record.nullable "defaultTags" TagSet.decoder
    <*> Record.nullable "includeTrackers" Decoder.bool
    <*> Record.nullable "hostExclusions" texts
    <*> Record.nullable "pathExclusions" texts

/-- The fields that are set, in the order of their declaration. -/
def toJson (f : ConfigFile) : Json :=
  .obj (Json.present "domain" (f.domain.map .str)
    ++ Json.present "baseUrl" (f.baseUrl.map .str)
    ++ Json.present "allowInsecureHttp" (f.allowInsecureHttp.map .bool)
    ++ Json.present "apiKey" (f.apiKey.map .str)
    ++ Json.present "apiKeyEnvironment" (f.apiKeyEnvironment.map .str)
    ++ Json.present "apiKeyId" (f.apiKeyId.map .str)
    ++ Json.present "apiKeySecret" (f.apiKeySecret.map .str)
    ++ Json.present "proxy" (f.proxy.map .str)
    ++ Json.present "skipTlsVerify" (f.skipTlsVerify.map .bool)
    ++ Json.present "tlsServerName" (f.tlsServerName.map .str)
    ++ Json.present "requestTimeoutSecs" (f.requestTimeoutSecs.map number64)
    ++ Json.present "retry" (f.retry.map RetrySection.toJson)
    ++ Json.present "cache" (f.cache.map CacheSection.toJson)
    ++ Json.present "batch" (f.batch.map BatchSection.toJson)
    ++ Json.present "daemon" (f.daemon.map DaemonSection.toJson)
    ++ Json.present "defaultTags" (f.defaultTags.map TagSet.toJson)
    ++ Json.present "includeTrackers" (f.includeTrackers.map .bool)
    ++ Json.present "hostExclusions" (f.hostExclusions.map textsJson)
    ++ Json.present "pathExclusions" (f.pathExclusions.map textsJson))

/-- A file to start from. Credentials are left to the environment. -/
def starter : ConfigFile :=
  { empty with
    domain := some "tracehound.dev"
    defaultTags := some (TagSet.empty.insert "owner" "me")
    pathExclusions := some ["^/health$"]
    batch := some ⟨some 64, some 5000⟩ }

end ConfigFile

end TrafficTrace
