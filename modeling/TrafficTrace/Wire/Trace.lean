import TrafficTrace.Event
import TrafficTrace.Identifier
import TrafficTrace.Tag

/-! Messages about traces: their description, their creation, and the batches appended to them. -/
namespace TrafficTrace

open Document

def Uuid.decoder : Decoder Uuid :=
  Decoder.refined fun s => match Uuid.ofText? s with
    | some u => .ok u
    | none => .error "the text is not a universally unique identifier"

def Uuid.toJson (u : Uuid) : Json := .str u.toText

/-- A trace as it is stored. -/
structure TraceInfo where
  id : TraceId
  serviceId : ServiceId
  name : String
  tags : TagSet
  active : Bool
  createdAt : Option Timestamp
deriving DecidableEq, Repr

namespace TraceInfo

def record : Record TraceInfo :=
  mk <$> Record.required "id" (Id.decoder .trace)
    <*> Record.required "service_id" (Id.decoder .service)
    <*> Record.required "name" Decoder.text
    <*> Record.defaulted "tags" TagSet.decoder .empty
    <*> Record.defaulted "active" Decoder.bool false
    <*> Record.optional "created_at" Timestamp.decoder

def toJson (t : TraceInfo) : Json :=
  .obj [("id", t.id.toJson), ("service_id", t.serviceId.toJson), ("name", .str t.name),
    ("tags", t.tags.toJson), ("active", .bool t.active),
    ("created_at", Json.orNull (t.createdAt.map Timestamp.toJson))]

end TraceInfo

structure CreateTraceRequest where
  name : String
  tags : TagSet
  /-- The spec whose knowledge the new trace extends. -/
  baseSpec : Option SpecId
deriving DecidableEq, Repr

namespace CreateTraceRequest

def record : Record CreateTraceRequest :=
  mk <$> Record.required "name" Decoder.text
    <*> Record.defaulted "tags" TagSet.decoder .empty
    <*> Record.optional "base_spec" (Id.decoder .spec)

def toJson (r : CreateTraceRequest) : Json :=
  .obj (("name", .str r.name) ::
    (if r.tags.isEmpty then [] else [("tags", r.tags.toJson)]) ++
    Json.present "base_spec" (r.baseSpec.map Id.toJson))

end CreateTraceRequest

/-- Events appended together. The batch is recognised by its identifier when it is sent again. -/
structure EventBatch where
  batchId : String
  clientId : Uuid
  events : List Event
deriving DecidableEq, Repr

namespace EventBatch

def record : Record EventBatch :=
  mk <$> Record.required "batch_id" Decoder.text
    <*> Record.required "client_id" Uuid.decoder
    <*> Record.required "events" (Decoder.list Event.decoder)

def toJson (b : EventBatch) : Json :=
  .obj [("batch_id", .str b.batchId), ("client_id", b.clientId.toJson),
    ("events", .arr (b.events.map Event.toJson))]

end EventBatch

structure AppendResponse where
  accepted : Nat
deriving DecidableEq, Repr

namespace AppendResponse

def record : Record AppendResponse := mk <$> Record.defaulted "accepted" Decoder.nat64 0

def toJson (r : AppendResponse) : Json := .obj [("accepted", .ofNat r.accepted)]

end AppendResponse

end TrafficTrace
