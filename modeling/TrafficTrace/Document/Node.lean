import TrafficTrace.Document.Plain
import TrafficTrace.Json.Basic

/-! Documents as they are read: a tree that ends at the first place where the text is wrong. What is
asked of a tree is answered in document order, so of several problems the first one is reported. -/
namespace TrafficTrace.Document

open Number

inductive Numeral where
  | int (n : Int)
  | float (x : Binary64)
deriving DecidableEq, Repr

/-- What lines of text can be said to be. -/
inductive ScalarType where
  | bool
  | nat
deriving DecidableEq, Repr

/-- `none` in a number, a string or a key stands for one that is well formed and denotes nothing. A list
of items or members is not `closed` when the text ends or goes wrong before its end. -/
inductive Node where
  | null
  | bool (b : Bool)
  | number (value : Option Numeral)
  | string (value : Option String)
  /-- A scalar without quotes in a format where those have no type of their own. -/
  | plain (text : String)
  /-- A scalar without quotes that is said to be of some type; `asNull` where that is null. -/
  | tagged (text : String) (asNull : Bool)
  /-- Lines of text that are said to be a truth value or an integer; asked for a text, they are one. -/
  | lines (text : String) (type : ScalarType)
  | array (items : List Node) (closed : Bool)
  /-- Items in a format where records are never written as a list. -/
  | sequence (items : List Node) (closed : Bool)
  | object (members : List (Option String × Node)) (closed : Bool)
  /-- A container nested too deeply to be read, which may still be skipped. -/
  | deep (inner : Node)
  | fault
deriving Repr, Inhabited

inductive DecodeError where
  | malformed
  | missingField (name : String)
  | duplicateField (name : String)
  | unknownVariant (given : String) (known : List String)
  /-- A text that a type's own reader refuses, with its reason. -/
  | refused (reason : String)
deriving DecidableEq, Repr

namespace DecodeError

def quoted (name : String) : String := "`" ++ name ++ "`"

def message : DecodeError → String
  | malformed => "the text is not what was expected here"
  | missingField name => "missing field " ++ quoted name
  | duplicateField name => "duplicate field " ++ quoted name
  | unknownVariant given known =>
    let expected := match known with
      | [] => "there are no variants"
      | [a] => "expected " ++ quoted a
      | [a, b] => "expected " ++ quoted a ++ " or " ++ quoted b
      | _ => "expected one of " ++ ", ".intercalate (known.map quoted)
    "unknown variant " ++ quoted given ++ ", " ++ expected
  | refused reason => reason

end DecodeError

abbrev Decoder (α : Type) := Node → Except DecodeError α

namespace Node

mutual
/-- Whether the text of the node is well formed to its end. -/
def intact : Node → Bool
  | .array items closed | .sequence items closed => closed && intactItems items
  | .object ms closed => closed && intactMembers ms
  | .deep inner => intact inner
  | .fault => false
  | _ => true

def intactItems : List Node → Bool
  | [] => true
  | n :: ns => intact n && intactItems ns

def intactMembers : List (Option String × Node) → Bool
  | [] => true
  | (_, n) :: ms => intact n && intactMembers ms
end

mutual
/-- A value as a document without problems. -/
def ofJson : Json → Node
  | .null => .null
  | .bool b => .bool b
  | .int n => .number (some (.int n))
  | .float x => .number (some (.float x))
  | .str s => .string (some s)
  | .arr items => .array (ofJsonItems items) true
  | .obj ms => .object (ofJsonMembers ms) true

def ofJsonItems : List Json → List Node
  | [] => []
  | j :: js => ofJson j :: ofJsonItems js

def ofJsonMembers : List (String × Json) → List (Option String × Node)
  | [] => []
  | (k, j) :: ms => (some k, ofJson j) :: ofJsonMembers ms
end

end Node

namespace Decoder

def text : Decoder String
  | .string (some s) => .ok s
  | .plain s | .tagged s _ | .lines s _ => .ok s
  | _ => .error .malformed

def bool : Decoder Bool
  | .bool b => .ok b
  | .plain s | .tagged s _ | .lines s .bool => match boolOfWord? s with
    | some b => .ok b
    | none => .error .malformed
  | _ => .error .malformed

/-- Null, and nothing else. -/
def nothing : Decoder Unit
  | .null => .ok ()
  | _ => .error .malformed

/-- An unsigned integer below `limit`. -/
def nat (limit : Nat) : Decoder Nat
  | .number (some (.int n)) => if 0 ≤ n ∧ n < limit then .ok n.toNat else .error .malformed
  | .plain s | .tagged s _ | .lines s .nat => match natOfWord? s with
    | some n => if n < limit then .ok n else .error .malformed
    | none => .error .malformed
  | _ => .error .malformed

def nat16 : Decoder Nat := nat UInt16.size
def nat32 : Decoder Nat := nat UInt32.size
def nat64 : Decoder Nat := nat UInt64.size

/-- Null gives none. An empty scalar is null, but not one that is said to be null. -/
def optional {α : Type} (d : Decoder α) : Decoder (Option α)
  | .null => .ok none
  | .plain s => if isNullWord s then .ok none else (d (.plain s)).map some
  | .tagged s true => if s ≠ "" && isNullWord s then .ok none else .error .malformed
  | n => (d n).map some

def each {α : Type} (d : Decoder α) : List Node → Except DecodeError (List α)
  | [] => .ok []
  | n :: ns => do
    let a ← d n
    let as ← each d ns
    return a :: as

/-- An empty scalar is an empty list. -/
def list {α : Type} (d : Decoder α) : Decoder (List α)
  | .array items closed | .sequence items closed => do
    let as ← each d items
    if closed then return as else .error .malformed
  | .plain "" | .tagged "" _ => .ok []
  | _ => .error .malformed

/-- The members of a map with values of one kind, in document order. -/
def eachMember {α : Type} (d : Decoder α) :
    List (Option String × Node) → Except DecodeError (List (String × α))
  | [] => .ok []
  | (none, _) :: _ => .error .malformed
  | (some k, n) :: ms => do
    let a ← d n
    let as ← eachMember d ms
    return (k, a) :: as

def members {α : Type} (d : Decoder α) : Decoder (List (String × α))
  | .object ms closed => do
    let as ← eachMember d ms
    if closed then return as else .error .malformed
  | .plain "" | .tagged "" _ => .ok []
  | _ => .error .malformed

/-- One of several named cases, as its name or as an object of that one name and null. -/
def variant {α : Type} (cases : List (String × α)) : Decoder α := fun n =>
  let find (s : String) : Except DecodeError α := match cases.lookup s with
    | some a => .ok a
    | none => .error (.unknownVariant s (cases.map (·.1)))
  match n with
  | .string (some s) => find s
  | .plain s | .tagged s _ | .lines s _ => find s
  | .object ((some s, v) :: rest) closed => do
    let a ← find s
    match v, rest, closed with
    | .null, [], true => return a
    | _, _, _ => .error .malformed
  | _ => .error .malformed

/-- A text that has to pass a reader. -/
def refined {α : Type} (read : String → Except String α) : Decoder α := fun n => do
  let s ← text n
  match read s with
  | .ok a => return a
  | .error reason => .error (.refused reason)

mutual
/-- A value of any kind. Members are sorted, and the last of one key counts. -/
def json : Node → Except DecodeError Json
  | .null => .ok .null
  | .bool b => .ok (.bool b)
  | .number (some (.int n)) => .ok (.int n)
  | .number (some (.float x)) => .ok (.float x)
  | .string (some s) => .ok (.str s)
  | .plain s | .tagged s _ | .lines s _ => .ok (.str s)
  | .array items true | .sequence items true => do return .arr (← jsonItems items)
  | .array items false | .sequence items false => do
    let _ ← jsonItems items
    .error .malformed
  | .object ms true => do return .obj (Keyed.ofList (← jsonMembers ms))
  | .object ms false => do
    let _ ← jsonMembers ms
    .error .malformed
  | .number none | .string none | .deep _ | .fault => .error .malformed

def jsonItems : List Node → Except DecodeError (List Json)
  | [] => .ok []
  | n :: ns => do
    let j ← json n
    let js ← jsonItems ns
    return j :: js

def jsonMembers : List (Option String × Node) → Except DecodeError (List (String × Json))
  | [] => .ok []
  | (none, _) :: _ => .error .malformed
  | (some k, n) :: ms => do
    let j ← json n
    let js ← jsonMembers ms
    return (k, j) :: js
end

end Decoder

end TrafficTrace.Document
