import TrafficTrace.Document.Node

/-! Records with named fields. A record is read from an object, or from an array that holds the
fields in their order. Unknown members are skipped. The earliest problem in the document is
reported; fields that are missing are noticed at the end, in the order of their declaration. -/
namespace TrafficTrace.Document

/-- What a record is read from, with the members in document order. -/
structure Members where
  entries : List (String × Node)
  positional : Bool
  closed : Bool

/-- A problem and the place of the member that has it. -/
abbrev Outcome (α : Type) := Except (Nat × DecodeError) α

namespace Outcome

/-- Both results, or the earlier of the problems; the left one where both are in one place. -/
def both {α β : Type} : Outcome α → Outcome β → Outcome (α × β)
  | .ok a, .ok b => .ok (a, b)
  | .error e, .ok _ => .error e
  | .ok _, .error f => .error f
  | .error e, .error f => .error (if f.1 < e.1 then f else e)

end Outcome

/-- What a field is when no member has its name. -/
inductive Absence (α : Type) where
  | required
  /-- It is null, but an array has to hold it. -/
  | nullable (value : α)
  | default (value : α)

/-- The names of a record's fields, and how the record is read from its members. -/
structure Record (α : Type) where
  names : List String
  read : Members → Outcome α

namespace Record

/-- The first member of the name and its place. -/
def locate (name : String) (place : Nat) : List (String × Node) → Option (Nat × Node)
  | [] => none
  | (k, n) :: ms => if k = name then some (place, n) else locate name (place + 1) ms

def field {α : Type} (name : String) (d : Decoder α) (absence : Absence α) : Record α where
  names := [name]
  read ms :=
    match locate name 0 ms.entries with
    | some (place, n) => (d n).mapError (place, ·)
    | none =>
      let last := ms.entries.length + 1
      match absence with
      | .default a => .ok a
      | .nullable a => if ms.positional then .error (last, .malformed) else .ok a
      | .required => .error (last, if ms.positional then .malformed else .missingField name)

def required {α : Type} (name : String) (d : Decoder α) : Record α := field name d .required

/-- A field that may be missing or null. -/
def nullable {α : Type} (name : String) (d : Decoder α) : Record (Option α) :=
  field name (Decoder.optional d) (.nullable none)

/-- A field that may be missing or null, in an array too. -/
def optional {α : Type} (name : String) (d : Decoder α) : Record (Option α) :=
  field name (Decoder.optional d) (.default none)

def defaulted {α : Type} (name : String) (d : Decoder α) (value : α) : Record α :=
  field name d (.default value)

def map {α β : Type} (f : α → β) (r : Record α) : Record β where
  names := r.names
  read ms := (r.read ms).map f

/-- The fields of the first record, then those of the second. -/
def both {α β : Type} (r : Record α) (s : Record β) : Record (α × β) where
  names := r.names ++ s.names
  read ms := (r.read ms).both (s.read ms)

instance : Functor Record := ⟨map, fun a r => map (fun _ => a) r⟩
instance : Seq Record := ⟨fun f x => map (fun p => p.1 p.2) (both f (x ()))⟩

/-- Problems with the members that no field reads: a second member of a known name, an unknown one
that is not well formed, an end that never comes. -/
def scan (names seen : List String) (place : Nat) (closed : Bool) :
    List (String × Node) → Outcome Unit
  | [] => if closed then .ok () else .error (place, .malformed)
  | (k, n) :: ms =>
    if k ∈ names then
      if k ∈ seen then .error (place, .duplicateField k)
      else scan names (k :: seen) (place + 1) closed ms
    else if n.intact then scan names seen (place + 1) closed ms
    else .error (place, .malformed)

/-- The members up to the first whose key cannot be read. -/
def named : List (Option String × Node) → Bool → List (String × Node) × Bool
  | [], closed => ([], closed)
  | (none, _) :: _, _ => ([], false)
  | (some k, n) :: ms, closed =>
    let (rest, c) := named ms closed
    ((k, n) :: rest, c)

def readMembers {α : Type} (r : Record α) (ms : Members) : Except DecodeError α :=
  match (scan r.names [] 0 ms.closed ms.entries).both (r.read ms) with
  | .ok (_, a) => .ok a
  | .error (_, e) => .error e

def decode {α : Type} (r : Record α) : Decoder α
  | .object ms closed =>
    let (entries, closed) := named ms closed
    r.readMembers ⟨entries, false, closed⟩
  | .array items closed =>
    r.readMembers ⟨r.names.zip items, true, closed && items.length ≤ r.names.length⟩
  | .plain "" | .tagged "" _ => r.readMembers ⟨[], false, true⟩
  | _ => .error .malformed

/-- Like `decode`, but an unknown member is a problem. -/
def decodeStrict {α : Type} (r : Record α) : Decoder α
  | .object ms closed =>
    let (entries, closed) := named ms closed
    -- nothing after the first unknown member is looked at
    let known := entries.takeWhile (·.1 ∈ r.names)
    r.readMembers ⟨known, false, closed && known.length = entries.length⟩
  | n => r.decode n

end Record

end TrafficTrace.Document
