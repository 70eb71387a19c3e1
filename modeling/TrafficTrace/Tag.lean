import TrafficTrace.Text.Lowercase
import TrafficTrace.Text.Blank
import TrafficTrace.Text.Quoted
import TrafficTrace.Document.Node

/-! Tags: text values under text keys. Keys that begin with `x-tracehound-` in any letter case belong
to the service that stores the traces. -/
namespace TrafficTrace

/-- Tags in ascending order of their keys. -/
structure TagSet where
  entries : List (String × String)
  ascending : entries.Pairwise (·.1 < ·.1)
deriving DecidableEq, Repr

namespace TagSet

def empty : TagSet := ⟨[], List.Pairwise.nil⟩

instance : Inhabited TagSet := ⟨empty⟩

def isEmpty (t : TagSet) : Bool := t.entries.isEmpty
def size (t : TagSet) : Nat := t.entries.length
def get? (t : TagSet) (key : String) : Option String := t.entries.lookup key

def insert (t : TagSet) (key value : String) : TagSet :=
  ⟨Keyed.insert key value t.entries, Keyed.pairwise_insert key value t.ascending⟩

/-- Of two values under one key the later stays. -/
def ofList (ms : List (String × String)) : TagSet := ⟨Keyed.ofList ms, Keyed.pairwise_ofList ms⟩

/-- The tags of both; the second set wins. -/
def merge (t u : TagSet) : TagSet := u.entries.foldl (fun acc m => acc.insert m.1 m.2) t

def reservedStart : String := "x-tracehound-"

def isReserved (key : String) : Bool :=
  reservedStart.toList.isPrefixOf (Text.asciiLower key).toList

def filter (t : TagSet) (p : String × String → Bool) : TagSet :=
  ⟨t.entries.filter p, t.ascending.filter p⟩

/-- The tags without the reserved ones. -/
def withoutReserved (t : TagSet) : TagSet := t.filter fun m => !isReserved m.1

def reservedKeys (t : TagSet) : List String := (t.entries.map (·.1)).filter isReserved

/-- Every wanted tag is there with the wanted value. An empty value may also be missing. -/
def covers (t wanted : TagSet) : Bool :=
  wanted.entries.all fun (key, value) =>
    match t.get? key with
    | some v => v == value
    | none => value == ""

/-- The tags as parameters of a query. -/
def toQuery (t : TagSet) : List (String × String) :=
  t.entries.map fun (key, value) => ("tag", key ++ ":" ++ value)

def toJson (t : TagSet) : Json := .obj (t.entries.map fun (k, v) => (k, .str v))

def decoder : Document.Decoder TagSet := fun n =>
  (Document.Decoder.members Document.Decoder.text n).map ofList

end TagSet

/-- A text that does not have the form `key=value`. -/
structure TagError where
  text : String
deriving DecidableEq, Repr

def TagError.message (e : TagError) : String :=
  "invalid tag " ++ Text.quote e.text ++ ", expected key=value"

/-- Splits at the first equals sign. The key is trimmed and must not be blank. -/
def readTag (text : String) : Except TagError (String × String) :=
  match Text.splitFirst '=' text.toList with
  | some (key, value) =>
    let key := Text.trimChars key
    if key.isEmpty then .error ⟨text⟩ else .ok (String.ofList key, String.ofList value)
  | none => .error ⟨text⟩

end TrafficTrace
