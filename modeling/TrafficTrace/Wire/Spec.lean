import TrafficTrace.Wire.Trace

/-! Messages about specs: what they are built from, their state, and how two of them differ. -/
namespace TrafficTrace

open Document

/-- A range of version labels, both ends included. -/
structure VersionRange where
  first : Option String
  last : Option String
deriving DecidableEq, Repr

namespace VersionRange

def record : Record VersionRange :=
  mk <$> Record.optional "from" Decoder.text <*> Record.optional "to" Decoder.text

def toJson (r : VersionRange) : Json :=
  .obj (Json.present "from" (r.first.map .str) ++ Json.present "to" (r.last.map .str))

end VersionRange

structure CreateSpecRequest where
  traces : List TraceId
  name : Option String
  pathPatterns : List String
  pathExclusions : List String
  hostExclusions : List String
  tags : TagSet
  versions : Option VersionRange
deriving DecidableEq, Repr

namespace CreateSpecRequest

def texts : Decoder (List String) := Decoder.list Decoder.text

def record : Record CreateSpecRequest :=
  mk <$> Record.required "traces" (Decoder.list (Id.decoder .trace))
    <*> Record.optional "name" Decoder.text
    <*> Record.defaulted "path_patterns" texts []
    <*> Record.defaulted "path_exclusions" texts []
    <*> Record.defaulted "host_exclusions" texts []
    <*> Record.defaulted "tags" TagSet.decoder .empty
    <*> Record.optional "versions" VersionRange.record.decode

def unlessEmpty (key : String) (values : List String) : List (String × Json) :=
  if values.isEmpty then [] else [(key, .arr (values.map .str))]

def toJson (r : CreateSpecRequest) : Json :=
  .obj (("traces", .arr (r.traces.map Id.toJson)) ::
    Json.present "name" (r.name.map .str) ++
    unlessEmpty "path_patterns" r.pathPatterns ++
    unlessEmpty "path_exclusions" r.pathExclusions ++
    unlessEmpty "host_exclusions" r.hostExclusions ++
    (if r.tags.isEmpty then [] else [("tags", r.tags.toJson)]) ++
    Json.present "versions" (r.versions.map VersionRange.toJson))

end CreateSpecRequest

structure CreateSpecResponse where
  id : SpecId
deriving DecidableEq, Repr

namespace CreateSpecResponse

def record : Record CreateSpecResponse := mk <$> Record.required "id" (Id.decoder .spec)

def toJson (r : CreateSpecResponse) : Json := .obj [("id", r.id.toJson)]

end CreateSpecResponse

inductive SpecState where
  | unspecified
  | computing
  | done
  | error
deriving DecidableEq, Repr

namespace SpecState

def name : SpecState → String
  | unspecified => "unspecified"
  | computing => "computing"
  | done => "done"
  | error => "error"

def all : List SpecState := [unspecified, computing, done, error]

def decoder : Decoder SpecState := Decoder.variant (all.map fun s => (s.name, s))

end SpecState

structure SpecInfo where
  id : SpecId
  name : String
  state : SpecState
  content : String
  tags : TagSet
  versionLabels : List String
  createdAt : Option Timestamp
deriving DecidableEq, Repr

namespace SpecInfo

def record : Record SpecInfo :=
  mk <$> Record.required "id" (Id.decoder .spec)
    <*> Record.required "name" Decoder.text
    <*> Record.required "state" SpecState.decoder
    <*> Record.defaulted "content" Decoder.text ""
    <*> Record.defaulted "tags" TagSet.decoder .empty
    <*> Record.defaulted "version_labels" CreateSpecRequest.texts []
    <*> Record.optional "created_at" Timestamp.decoder

def toJson (s : SpecInfo) : Json :=
  .obj [("id", s.id.toJson), ("name", .str s.name), ("state", .str s.state.name),
    ("content", .str s.content), ("tags", s.tags.toJson),
    ("version_labels", .arr (s.versionLabels.map .str)),
    ("created_at", Json.orNull (s.createdAt.map Timestamp.toJson))]

end SpecInfo

/-- What a name within a service can stand for. -/
inductive ResourceKind where
  | trace
  | spec
deriving DecidableEq, Repr

namespace ResourceKind

def name : ResourceKind → String
  | trace => "trace"
  | spec => "spec"

def all : List ResourceKind := [trace, spec]

def decoder : Decoder ResourceKind := Decoder.variant (all.map fun k => (k.name, k))

/-- Like `decoder`, but what is not the name of a kind stands for a trace. -/
def lenient : Decoder ResourceKind := fun n => .ok ((decoder n).toOption.getD trace)

end ResourceKind

/-- The identifier behind a name. -/
inductive ResourceId where
  | trace (id : TraceId)
  | spec (id : SpecId)
deriving DecidableEq, Repr

/-- The answer to a question for a name; the identifier's kind is the one asked for. -/
structure ResolvedName where
  id : String
deriving DecidableEq, Repr

namespace ResolvedName

def record : Record ResolvedName := mk <$> Record.required "id" Decoder.text

def toJson (r : ResolvedName) : Json := .obj [("id", .str r.id)]

end ResolvedName

structure EndpointChange where
  method : String
  path : String
  change : String
deriving DecidableEq, Repr

namespace EndpointChange

def record : Record EndpointChange :=
  mk <$> Record.required "method" Decoder.text
    <*> Record.required "path" Decoder.text
    <*> Record.required "change" Decoder.text

def toJson (c : EndpointChange) : Json :=
  .obj [("method", .str c.method), ("path", .str c.path), ("change", .str c.change)]

end EndpointChange

structure SpecDiff where
  added : List EndpointChange
  removed : List EndpointChange
  modified : List EndpointChange
deriving DecidableEq, Repr

namespace SpecDiff

def record : Record SpecDiff :=
  let changes := Decoder.list EndpointChange.record.decode
  mk <$> Record.defaulted "added" changes []
    <*> Record.defaulted "removed" changes []
    <*> Record.defaulted "modified" changes []

def toJson (d : SpecDiff) : Json :=
  let changes (cs : List EndpointChange) : Json := .arr (cs.map EndpointChange.toJson)
  .obj [("added", changes d.added), ("removed", changes d.removed), ("modified", changes d.modified)]

end SpecDiff

end TrafficTrace
