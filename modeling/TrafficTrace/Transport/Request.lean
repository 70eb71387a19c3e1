import TrafficTrace.Json.Basic
import TrafficTrace.Time.Duration

/-! Calls of the service as data: a method, a path under the address of the service, parameters and a
body. -/
namespace TrafficTrace

inductive Method where
  | get
  | post
deriving DecidableEq, Repr

def Method.name : Method → String
  | get => "GET"
  | post => "POST"

structure ApiRequest where
  /-- The name under which the call is counted. -/
  operation : String
  method : Method
  path : String
  query : List (String × String)
  body : Option Json
  /-- Sent twice, the request does no more than sent once. -/
  idempotent : Bool
  /-- Counts instead of the timeout of all requests. -/
  timeout : Option Duration
deriving DecidableEq

namespace ApiRequest

/-- To ask twice changes nothing. -/
def get (operation path : String) : ApiRequest := ⟨operation, .get, path, [], none, true, none⟩

/-- The members of a body are in the order of their keys. -/
def post (operation path : String) (body : Json) : ApiRequest :=
  ⟨operation, .post, path, [], some body.sorted, false, none⟩

def repeatable (r : ApiRequest) : ApiRequest := { r with idempotent := true }

def withQuery (r : ApiRequest) (pairs : List (String × String)) : ApiRequest :=
  { r with query := r.query ++ pairs }

def withTimeout (r : ApiRequest) (timeout : Duration) : ApiRequest :=
  { r with timeout := some timeout }

end ApiRequest

end TrafficTrace
