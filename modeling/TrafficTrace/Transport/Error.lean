import TrafficTrace.Credentials
import TrafficTrace.Fault

/-! What can go wrong when a request is sent. -/
namespace TrafficTrace

inductive TransportError where
  | missingCredentials (missing : MissingCredential)
  | unauthorized (credentialsPresent : Bool)
  | http (status : Nat) (body : String)
  | network (text : String)
  | timeout (millis : Nat)
  | decode (text : String)
  | config (text : String)
  | retriesExhausted (attempts : Nat) (last : TransportError)
deriving DecidableEq, Repr, Inhabited

namespace TransportError

def kind : TransportError → String
  | missingCredentials _ => "MissingCredentials"
  | unauthorized _ => "Unauthorized"
  | http _ _ => "Http"
  | network _ => "Network"
  | timeout _ => "Timeout"
  | decode _ => "Decode"
  | config _ => "Config"
  | retriesExhausted _ _ => "RetriesExhausted"

def message : TransportError → String
  | missingCredentials m => m.message
  | unauthorized true => "Authentication failed: the backend rejected your API credentials. " ++
      "Check that the key is valid and belongs to the right environment"
  | unauthorized false => "Authentication failed: no API credentials were sent. " ++
      "Configure TRACEHOUND_API_KEY or TRACEHOUND_API_KEY_ID/TRACEHOUND_API_KEY_SECRET"
  | http status body => "HTTP " ++ toString status ++ ": " ++ body
  | network text => "Network error: " ++ text
  | timeout millis => "Timeout after " ++ toString millis ++ "ms"
  | decode text => "Response parsing error: " ++ text
  | config text => "Invalid transport configuration: " ++ text
  | retriesExhausted attempts last =>
    "Giving up after " ++ toString attempts ++ " attempts: " ++ last.message

/-- The same request may succeed when it is sent again. -/
def isRetryable : TransportError → Bool
  | network _ | timeout _ => true
  | http status _ => 500 ≤ status
  | _ => false

def status : TransportError → Option Nat
  | http s _ => some s
  | unauthorized _ => some 401
  | retriesExhausted _ last => last.status
  | _ => none

def isNotFound (e : TransportError) : Bool := e.status == some 404

def fault : TransportError → Fault
  | decode text =>
    .mk "Decode" (decode text).message (some (.document text)) none
  | retriesExhausted attempts last =>
    let e := retriesExhausted attempts last
    .wrapping e.kind e.message last.fault
  | e => .plain e.kind e.message

end TransportError

end TrafficTrace
