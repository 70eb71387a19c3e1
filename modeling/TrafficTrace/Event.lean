import TrafficTrace.Document.Record
import TrafficTrace.Json.Reader
import TrafficTrace.Text.Blank
import TrafficTrace.Text.Lowercase
import TrafficTrace.Time.Timestamp

/-! Events of observed traffic, and their one-line JSON form. -/
namespace TrafficTrace

open Document

/-- The side of the connection from which an event was seen. -/
inductive Direction where
  | inbound
  | outbound
deriving DecidableEq, Repr

namespace Direction

def name : Direction → String
  | inbound => "inbound"
  | outbound => "outbound"

def all : List Direction := [inbound, outbound]

def decoder : Decoder Direction := Decoder.variant (all.map fun d => (d.name, d))

end Direction

inductive EventKind where
  | request
  | response
  | connection
  | tlsHandshake
  /-- Bytes that could not be read as a message. -/
  | unparsed
deriving DecidableEq, Repr

namespace EventKind

def name : EventKind → String
  | request => "request"
  | response => "response"
  | connection => "connection"
  | tlsHandshake => "tls_handshake"
  | unparsed => "unparsed"

def all : List EventKind := [request, response, connection, tlsHandshake, unparsed]

def isHttp : EventKind → Bool
  | request | response => true
  | _ => false

def decoder : Decoder EventKind := Decoder.variant (all.map fun k => (k.name, k))

end EventKind

structure Event where
  /-- Pairs a request with its response. -/
  requestId : Option String
  direction : Direction
  kind : EventKind
  host : String
  path : String
  method : Option String
  status : Option Nat
  observedAt : Timestamp
  payload : Json
deriving DecidableEq, Repr

namespace Event

/-- An outbound request. -/
def request (method host path : String) (at_ : Timestamp) : Event :=
  ⟨none, .outbound, .request, host, path, some method, none, at_, .null⟩

/-- An inbound response. -/
def response (status : Nat) (host path : String) (at_ : Timestamp) : Event :=
  ⟨none, .inbound, .response, host, path, none, some status, at_, .null⟩

def withRequestId (e : Event) (id : String) : Event := { e with requestId := some id }

/-- The characters before a port. A port is digits after the only colon; it may be empty. -/
def withoutPort (cs : List Char) : List Char :=
  match Text.splitLast ':' cs with
  | some (name, port) => if name.all (· ≠ ':') && port.all Json.isDigit then name else cs
  | none => cs

/-- The host in lower case, without blanks around it, port, and dots at the end. -/
def hostNameOf (host : String) : String :=
  let bare := withoutPort (Text.trimChars host.toList)
  Text.lower (String.ofList (Text.dropEndWhile (· = '.') bare))

def hostName (e : Event) : String := hostNameOf e.host

def record : Record Event :=
  Event.mk <$> Record.optional "requestId" Decoder.text
    <*> Record.required "direction" Direction.decoder
    <*> Record.required "kind" EventKind.decoder
    <*> Record.defaulted "host" Decoder.text ""
    <*> Record.defaulted "path" Decoder.text ""
    <*> Record.optional "method" Decoder.text
    <*> Record.optional "status" Decoder.nat16
    <*> Record.required "observedAt" Timestamp.decoder
    <*> Record.defaulted "payload" Decoder.json .null

def decoder : Decoder Event := record.decode

/-- Members in the order of the fields; an absent identifier, method or status is left out. -/
def toJson (e : Event) : Json :=
  .obj (Json.present "requestId" (e.requestId.map .str) ++
    [("direction", .str e.direction.name), ("kind", .str e.kind.name), ("host", .str e.host),
      ("path", .str e.path)] ++
    Json.present "method" (e.method.map .str) ++
    Json.present "status" (e.status.map .ofNat) ++
    [("observedAt", e.observedAt.toJson), ("payload", e.payload)])

def toText (e : Event) : String := e.toJson.toText

def ofText (s : String) : Except DecodeError Event := Json.decodeText decoder s

end Event

end TrafficTrace
