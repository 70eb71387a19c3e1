import TrafficTrace.Uuid
import TrafficTrace.Text.Quoted
import TrafficTrace.Document.Node

/-! Identifiers of services, traces and specs. The text is a tag for the kind, an underscore and 32
hexadecimal digits. The value of all zeros names nothing. -/
namespace TrafficTrace

inductive IdKind where
  | service
  | trace
  | spec
deriving DecidableEq, Repr

namespace IdKind

/-- What the text of an identifier starts with. -/
def tag : IdKind → String
  | service => "svc"
  | trace => "trc"
  | spec => "spc"

def name : IdKind → String
  | service => "service"
  | trace => "trace"
  | spec => "spec"

def typeName : IdKind → String
  | service => "ServiceId"
  | trace => "TraceId"
  | spec => "SpecId"

end IdKind

structure Id (k : IdKind) where
  uuid : Uuid
deriving DecidableEq, Repr

abbrev ServiceId := Id .service
abbrev TraceId := Id .trace
abbrev SpecId := Id .spec

/-- A text that is no identifier of the kind. -/
structure IdError where
  kind : IdKind
  text : String
deriving DecidableEq, Repr

def IdError.message (e : IdError) : String :=
  "invalid " ++ e.kind.name ++ " id " ++ Text.quote e.text

namespace Id

variable {k : IdKind}

def nil : Id k := ⟨.nil⟩
def isNil (i : Id k) : Bool := i.uuid.isNil

instance : Inhabited (Id k) := ⟨nil⟩

def write (i : Id k) : List Char := k.tag.toList ++ '_' :: i.uuid.simple

def toText (i : Id k) : String := String.ofList i.write

/-- The text with the name of the type around it. -/
def describe (i : Id k) : String := k.typeName ++ "(" ++ i.toText ++ ")"

/-- What follows the words, if the characters start with them. -/
def afterWord? : List Char → List Char → Option (List Char)
  | [], cs => some cs
  | _ :: _, [] => none
  | w :: ws, c :: cs => if w = c then afterWord? ws cs else none

def read? (k : IdKind) (cs : List Char) : Option (Id k) := do
  let hex ← afterWord? (k.tag.toList ++ ['_']) cs
  if (String.ofList hex).utf8ByteSize = 32 then (Uuid.read? hex).map Id.mk else none

def ofText (k : IdKind) (s : String) : Except IdError (Id k) :=
  match read? k s.toList with
  | some i => .ok i
  | none => .error ⟨k, s⟩

def decoder (k : IdKind) : Document.Decoder (Id k) :=
  Document.Decoder.refined fun s => (ofText k s).mapError IdError.message

def toJson (i : Id k) : Json := .str i.toText

/-- A set of identifiers in ascending order. -/
def insert (i : Id k) : List (Id k) → List (Id k)
  | [] => [i]
  | j :: js =>
    if i = j then j :: js
    else if i.uuid.toNat < j.uuid.toNat then i :: j :: js
    else j :: insert i js

def setOf (is : List (Id k)) : List (Id k) := is.foldl (fun acc i => insert i acc) []

@[simp] theorem mem_insert {i j : Id k} {js : List (Id k)} : j ∈ insert i js ↔ j = i ∨ j ∈ js := by
  induction js with
  | nil => simp [insert]
  | cons a as ih =>
    unfold insert
    split
    · rename_i h; subst h; simp
    · split
      · simp
      · simp only [List.mem_cons, ih]; grind

theorem insert_perm {i : Id k} {js : List (Id k)} (new : i ∉ js) :
    (insert i js).Perm (i :: js) := by
  induction js with
  | nil => exact .refl _
  | cons a as ih =>
    obtain ⟨other, rest⟩ := not_or.mp (mt List.mem_cons.mpr new)
    rw [insert, if_neg other]
    split
    · exact .refl _
    · exact ((ih rest).cons a).trans (.swap i a as)

end Id

example : (Id.ofText .trace "trc_00FF00ff00ff00ff00ff00ff00ff00ff").toOption.map Id.toText =
    some "trc_00ff00ff00ff00ff00ff00ff00ff00ff" := by decide +kernel

end TrafficTrace
