import TrafficTrace.Text.Utf8
import TrafficTrace.Time.Duration
import TrafficTrace.Transport.Error
import TrafficTrace.Transport.Request
import TrafficTrace.Url.Basic

/-! The network as a machine that answers requests. How it transmits them is its own affair. -/
namespace TrafficTrace

/-- A request in its final form. -/
structure HttpRequest where
  method : Method
  url : Url
  /-- The host that is connected to, where it is not that of the address. -/
  peer : Option Url.Host
  headers : List (String × String)
  body : Option String
  timeout : Duration
deriving DecidableEq

/-- How a request ended. -/
inductive Exchange where
  | answered (status : Nat) (body : List UInt8)
  /-- No connection, or one that broke before an answer. -/
  | unreachable
  | timedOut
  /-- An answer whose body broke off. -/
  | cutShort
deriving DecidableEq, Repr

namespace Exchange

/-- An answer is a success from status 200 to 299. -/
def outcome (q : HttpRequest) : Exchange → Except TransportError (List UInt8)
  | answered status body =>
    if 200 ≤ status && status < 300 then .ok body
    else if status = 401 then .error (.unauthorized true)
    else .error (.http status (Text.ofUtf8Lossy body))
  | unreachable => .error (.network ("error sending request for url (" ++ q.url.toText ++ ")"))
  | timedOut => .error (.timeout (q.timeout.millis % UInt64.size))
  | cutShort => .error (.decode "error decoding response body")

end Exchange

/-- A network over states `σ`. -/
structure Network (σ : Type) where
  exchange : HttpRequest → σ → Exchange × σ
  /-- Lets a time pass. -/
  pause : Duration → σ → σ
  now : σ → Instant
  /-- Why a host has no address, if it has none. -/
  unresolved : String → Option String

namespace Network

/-- A network without connections. -/
def disconnected : Network Unit where
  exchange _ s := (.unreachable, s)
  pause _ s := s
  now _ := 0
  unresolved host :=
    match Url.Host.read host.toList with
    | .ok (.ipv4 _) => none
    | _ =>
      if host = "localhost" then none
      else some "failed to lookup address information: Temporary failure in name resolution"

/-- What a logged network did. -/
inductive Effect where
  | sent (q : HttpRequest) (outcome : Exchange)
  | paused (d : Duration)
deriving DecidableEq

variable {σ : Type}

/-- The same network with a log of all it did, the latest last. -/
def logged (n : Network σ) : Network (σ × List Effect) where
  exchange q s :=
    let (x, state) := n.exchange q s.1
    (x, state, s.2 ++ [.sent q x])
  pause d s := (n.pause d s.1, s.2 ++ [.paused d])
  now s := n.now s.1
  unresolved := n.unresolved

/-- A network whose requests end as a list says, and after that with no connection. -/
def scripted : Network (List Exchange) where
  exchange _
    | [] => (.unreachable, [])
    | x :: xs => (x, xs)
  pause _ s := s
  now _ := 0
  unresolved _ := none

end Network

end TrafficTrace
