import TrafficTrace.Json.Printer
import TrafficTrace.Json.Reader
import TrafficTrace.Metrics.Basic
import TrafficTrace.Transport.Address
import TrafficTrace.Transport.Failure
import TrafficTrace.Transport.Network
import TrafficTrace.Uuid

/-! Sending requests with credentials. A request that may be repeated is sent again after a failure
that may pass; every call is counted, and every failed call is reported. -/
namespace TrafficTrace

open Document

/-- The version of the program, which every request names. -/
def version : String := "0.1.0"

/-- A request and the reader of its answer. -/
structure ApiCall (α : Type) where
  request : ApiRequest
  answer : Decoder α

/-- A way to the service; `ρ` names the receivers of failure reports. -/
structure Transport (ρ : Type) where
  settings : TransportSettings
  client : Uuid
  reporter : FailureReporter ρ
  base : Url

/-- Where requests go. -/
structure Connection where
  base : Url
  /-- The host behind a base whose host is only a name on its certificate. -/
  peer : Option Url.Host
deriving DecidableEq

/-- The state of a network with what was counted and reported. -/
structure Observed (ρ σ : Type) where
  state : σ
  metrics : Metrics
  reports : List (ρ × FailureReport)

/-- What a header may hold: no control characters but the tab. -/
def isHeaderText (s : String) : Bool :=
  s.toList.all fun c => c = '\t' || (32 ≤ c.toNat && c.toNat ≠ 127)

/-- Whether requests can be sent to an address. -/
def isRequestable (u : Url) : Bool :=
  (u.scheme = "http" || u.scheme = "https") && u.toText.utf8ByteSize < 65535
    && ((u.host.map Url.Host.toText).getD "").toList.all fun c => c ∉ ['"', '\x60', '\x7b', '\x7d']

/-- White space between the tokens of a document, and the form feed. -/
def isBlankByte (b : UInt8) : Bool := b = 32 || b = 9 || b = 10 || b = 12 || b = 13

/-- A body of white space stands for `null`. -/
def decodeBody {α : Type} (answer : Decoder α) (body : List UInt8) : Except TransportError α :=
  let read := if body.all isBlankByte then answer (Node.ofJson .null)
    else match Text.ofUtf8? body with
      | some text => Json.decodeText answer text
      | none => .error .malformed
  read.mapError fun e => .decode e.message

namespace RetryPolicy

variable {σ β : Type}

/-- Tries once more after `made` attempts, and goes on while the failures may pass and the policy
allows another attempt. What may not be repeated is tried once. -/
def tries (p : RetryPolicy) (repeatable : Bool) (once : σ → Except TransportError β × σ)
    (pause : Duration → σ → σ) (made : Nat) (s : σ) : Except TransportError β × σ :=
  match once s with
  | (.ok b, s) => (.ok b, s)
  | (.error e, s) =>
    if repeatable && e.isRetryable then
      if more : p.allowsAnother (made + 1) then
        tries p repeatable once pause (made + 1) (pause (p.backoff (made + 2)) s)
      else (.error (if made = 0 then e else .retriesExhausted (made + 1) e), s)
    else (.error e, s)
termination_by max p.maxAttempts 1 - made
decreasing_by
  have allowed := allowsAnother_iff.mp more
  omega

end RetryPolicy

namespace Transport

variable {ρ σ α : Type}

/-- Refuses settings without a usable address. -/
def new (settings : TransportSettings) (client : Uuid) (reporter : FailureReporter ρ) :
    Except TransportError (Transport ρ) :=
  settings.address.map fun base => ⟨settings, client, reporter, base⟩

def describe (t : Transport ρ) : String :=
  "Transport \x7b base_url: " ++ Text.quote t.base.toText ++ ", initialized: false \x7d"

/-- Checks the proxy, and finds the host behind an expected server name. -/
def connect (t : Transport ρ) (n : Network σ) : Except TransportError Connection := do
  if let some proxy := t.settings.proxy then
    if !isProxy proxy then
      throw (.config ("invalid proxy " ++ Text.quote proxy ++ ": builder error"))
  match t.settings.tlsServerName, t.base.host with
  | none, _ => return ⟨t.base, none⟩
  | some _, none => throw (.config "base URL has no host")
  | some name, some host =>
    if let some reason := n.unresolved host.toText then
      throw (.config ("cannot resolve " ++ host.toText ++ ": " ++ reason))
    match t.base.withHost name with
    | .ok base => return ⟨base, some host⟩
    | .error e => throw (.config ("invalid server name: " ++ e.message))

/-- The headers of every request. -/
def headers (t : Transport ρ) : List (String × String) :=
  [("user-agent", "tracehound/" ++ version), ("x-tracehound-cli-version", version),
    ("x-tracehound-cli", "true"), ("x-tracehound-client-id", t.client.toText)]

/-- The address of a request: its path under the base, and its parameters. -/
def target (c : Connection) (r : ApiRequest) : Except TransportError Url :=
  match c.base.join (String.ofList (r.path.toList.dropWhile (· = '/'))) with
  | .error e => .error (.config ("invalid path " ++ Text.quote r.path ++ ": " ++ e.message))
  | .ok url => .ok (url.withPairs r.query)

/-- The final form of a request. A user in the address is sent as a header. -/
def prepare (t : Transport ρ) (c : Connection) (credentials : Credentials) (r : ApiRequest) :
    Except TransportError HttpRequest := do
  let url ← target c r
  let (url, user) := match url.user? with
    | some (name, password) => (url.withoutUser, (Credentials.basic name (password.getD "")).headers)
    | none => (url, [])
  if !credentials.headers.all fun h => isHeaderText h.2 then throw (.config "builder error")
  if !isRequestable url then throw (.config ("builder error for url (" ++ url.toText ++ ")"))
  let content := if r.body.isSome then [("content-type", "application/json")] else []
  return {
    method := r.method
    url
    peer := c.peer
    headers := t.headers ++ user ++ content ++ credentials.headers
    body := r.body.map Json.toText
    timeout := r.timeout.getD t.settings.requestTimeout }

/-- One attempt. -/
def attempt (t : Transport ρ) (n : Network σ) (c : Connection) (credentials : Credentials)
    (r : ApiRequest) (s : σ) : Except TransportError (List UInt8) × σ :=
  match t.prepare c credentials r with
  | .error e => (.error e, s)
  | .ok q =>
    let (x, s) := n.exchange q s
    (x.outcome q, s)

/-- The body of the answer, after as many attempts as are needed and allowed. -/
def exchange (t : Transport ρ) (n : Network σ) (r : ApiRequest) (s : σ) :
    Except TransportError (List UInt8) × σ :=
  match t.settings.credentials with
  | none => (.error (.missingCredentials t.settings.missing), s)
  | some credentials =>
    match t.connect n with
    | .error e => (.error e, s)
    | .ok c =>
      t.settings.retry.tries r.idempotent (t.attempt n c credentials r) n.pause 0 s

/-- Makes a call. It counts as a success if a body was received, read or not. -/
def send (t : Transport ρ) (n : Network σ) (call : ApiCall α) (s : Observed ρ σ) :
    Except TransportError α × Observed ρ σ :=
  let r := call.request
  let (received, state) := t.exchange n r s.state
  let took := Duration.ofNanos (n.now state - n.now s.state)
  let metrics := s.metrics.recordCall r.operation took received.toOption.isSome
  let result := received.bind (decodeBody call.answer)
  let reports := match result with
    | .ok _ => []
    | .error e => t.reporter.report ⟨r.method.name, r.path, e⟩
  (result, ⟨state, metrics, s.reports ++ reports⟩)

end Transport

end TrafficTrace
