import TrafficTrace.Yaml.Token
import TrafficTrace.Yaml.Tree

/-! Reading YAML text. The readers give the tree and what follows it, or nothing where the text is
not well formed. -/
namespace TrafficTrace.Yaml

open Document

/-- What is left to read, and the names so far. -/
structure Remainder where
  names : Names
  tokens : List Token

/-- What precedes a node. -/
structure Properties where
  anchor : Option String
  tag : Option (String × String)

/-- An anchor and a tag, in either order. -/
def properties : List Token → Properties × List Token
  | .anchor a :: .tag h s :: ts => (⟨some a, some (h, s)⟩, ts)
  | .tag h s :: .anchor a :: ts => (⟨some a, some (h, s)⟩, ts)
  | .anchor a :: ts => (⟨some a, none⟩, ts)
  | .tag h s :: ts => (⟨none, some (h, s)⟩, ts)
  | ts => (⟨none, none⟩, ts)

/-- The tag in full; no result if the handle is unknown. -/
def Properties.fullTag? (p : Properties) (hs : Handles) : Option (Option String) :=
  match p.tag with
  | none => some none
  | some (h, s) => (resolveTag hs h s).map some

/-- Where a value may be missing. -/
inductive Place where
  | blockItem
  | indentlessItem
  | blockMember
  | flowItem
  | flowKey
  | flowValue
deriving DecidableEq, Repr

/-- Whether nothing is written before a token. -/
def Place.isEmpty (p : Place) (t : Token) : Bool :=
  match p with
  | .blockItem => t = .blockEntry || t = .blockEnd
  | .indentlessItem => t = .blockEntry || t = .key || t = .value || t = .blockEnd
  | .blockMember => t = .key || t = .value || t = .blockEnd
  | .flowItem => t = .flowEntry || t = .flowSequenceEnd
  | .flowKey => t = .value || t = .flowEntry || t = .flowMappingEnd
  | .flowValue => t = .flowEntry || t = .flowMappingEnd

def Place.inBlock : Place → Bool
  | .blockItem | .indentlessItem | .blockMember => true
  | _ => false

mutual
/-- A node. A sequence as a mapping's value need not be indented: `indentless`. The fuel bounds the
steps. -/
def readNode (hs : Handles) (fuel : Nat) (block indentless : Bool) (r : Remainder) :
    Option (Tree × Remainder) :=
  match fuel with
  | 0 => none
  | fuel + 1 =>
    match r.tokens with
    | .reference name :: ts => do
      let n ← r.names.lookup name
      return (.reference n, { r with tokens := ts })
    | ts => do
      let (p, ts) := properties ts
      let tag ← p.fullTag? hs
      match p.anchor with
      | some name => do
        let (t, rest) ← readContent hs fuel block indentless tag true ⟨r.names.give name, ts⟩
        return (.anchored r.names.length t, rest)
      | none => readContent hs fuel block indentless tag tag.isSome ⟨r.names, ts⟩

/-- A node after its properties. After some it may be `missing`. -/
def readContent (hs : Handles) (fuel : Nat) (block indentless : Bool) (tag : Option String)
    (missing : Bool) (r : Remainder) : Option (Tree × Remainder) :=
  match fuel with
  | 0 => none
  | fuel + 1 =>
    match r.tokens with
    | .scalar text style :: ts => some (.scalar text style tag, { r with tokens := ts })
    | .flowSequence :: ts => do
      let (items, r) ← readFlowItems hs fuel true { r with tokens := ts }
      return (.sequence items, r)
    | .flowMapping :: ts => do
      let (members, r) ← readFlowMembers hs fuel true { r with tokens := ts }
      return (.mapping members, r)
    | t :: ts =>
      if indentless && t = .blockEntry then do
        let (items, r) ← readItems hs fuel .indentlessItem r
        return (.sequence items, r)
      else if block && t = .blockSequence then do
        let (items, r) ← readItems hs fuel .blockItem { r with tokens := ts }
        return (.sequence items, r)
      else if block && t = .blockMapping then do
        let (members, r) ← readMembers hs fuel { r with tokens := ts }
        return (.mapping members, r)
      else if missing then some (.scalar "" .plain tag, r)
      else none
    | [] => none

/-- A node, or an empty scalar where none is written. -/
def readOptional (hs : Handles) (fuel : Nat) (place : Place) (r : Remainder) :
    Option (Tree × Remainder) :=
  match fuel with
  | 0 => none
  | fuel + 1 =>
    match r.tokens with
    | [] => none
    | t :: _ =>
      if place.isEmpty t then some (.empty, r)
      else readNode hs fuel place.inBlock (place = .blockMember) r

/-- The items of a block sequence. -/
def readItems (hs : Handles) (fuel : Nat) (place : Place) (r : Remainder) :
    Option (List Tree × Remainder) :=
  match fuel with
  | 0 => none
  | fuel + 1 =>
    match r.tokens with
    | .blockEntry :: ts => do
      let (t, r) ← readOptional hs fuel place { r with tokens := ts }
      let (items, r) ← readItems hs fuel place r
      return (t :: items, r)
    | [] => none
    | t :: ts =>
      if place = .indentlessItem then some ([], r)
      else if t = .blockEnd then some ([], { r with tokens := ts })
      else none

/-- The members of a block mapping. -/
def readMembers (hs : Handles) (fuel : Nat) (r : Remainder) :
    Option (List (Tree × Tree) × Remainder) :=
  match fuel with
  | 0 => none
  | fuel + 1 =>
    match r.tokens with
    | .key :: ts => do
      let (m, r) ← readMember hs fuel .blockMember .blockMember { r with tokens := ts }
      let (members, r) ← readMembers hs fuel r
      return (m :: members, r)
    | .blockEnd :: ts => some ([], { r with tokens := ts })
    | _ => none

/-- A key and its value. -/
def readMember (hs : Handles) (fuel : Nat) (keyPlace valuePlace : Place) (r : Remainder) :
    Option ((Tree × Tree) × Remainder) :=
  match fuel with
  | 0 => none
  | fuel + 1 => do
    let (k, r) ← readOptional hs fuel keyPlace r
    let (v, r) ← readValue hs fuel valuePlace r
    return ((k, v), r)

/-- What a colon comes before, or an empty scalar if there is no colon. -/
def readValue (hs : Handles) (fuel : Nat) (place : Place) (r : Remainder) :
    Option (Tree × Remainder) :=
  match fuel with
  | 0 => none
  | fuel + 1 =>
    match r.tokens with
    | .value :: ts => readOptional hs fuel place { r with tokens := ts }
    | _ => some (.empty, r)

/-- The items of a flow sequence, after one of them unless it is the `first`. -/
def readFlowItems (hs : Handles) (fuel : Nat) (first : Bool) (r : Remainder) :
    Option (List Tree × Remainder) :=
  match fuel with
  | 0 => none
  | fuel + 1 =>
    match first, r.tokens with
    | _, .flowSequenceEnd :: ts => some ([], { r with tokens := ts })
    | true, _ => readFlowItem hs fuel r
    | false, .flowEntry :: .flowSequenceEnd :: ts => some ([], { r with tokens := ts })
    | false, .flowEntry :: ts => readFlowItem hs fuel { r with tokens := ts }
    | false, _ => none

/-- An item of a flow sequence and those after it. A pair is a mapping of its own. -/
def readFlowItem (hs : Handles) (fuel : Nat) (r : Remainder) : Option (List Tree × Remainder) :=
  match fuel with
  | 0 => none
  | fuel + 1 => do
    let (t, r) ← match r.tokens with
      | .key :: .value :: ts | .key :: .flowEntry :: ts | .key :: .flowSequenceEnd :: ts => do
        -- a pair without a key takes the token after it
        let (v, r) ← readValue hs fuel .flowItem { r with tokens := ts }
        some (.mapping [(.empty, v)], r)
      | .key :: ts => do
        let (m, r) ← readMember hs fuel .flowItem .flowItem { r with tokens := ts }
        some (.mapping [m], r)
      | _ => readNode hs fuel false false r
    let (items, r) ← readFlowItems hs fuel false r
    return (t :: items, r)

/-- The members of a flow mapping, after one of them unless it is the `first`. -/
def readFlowMembers (hs : Handles) (fuel : Nat) (first : Bool) (r : Remainder) :
    Option (List (Tree × Tree) × Remainder) :=
  match fuel with
  | 0 => none
  | fuel + 1 =>
    match first, r.tokens with
    | _, .flowMappingEnd :: ts => some ([], { r with tokens := ts })
    | true, _ => readFlowMember hs fuel r
    | false, .flowEntry :: .flowMappingEnd :: ts => some ([], { r with tokens := ts })
    | false, .flowEntry :: ts => readFlowMember hs fuel { r with tokens := ts }
    | false, _ => none

/-- A member of a flow mapping and those after it. A node that is not marked as a key is one without
a value. -/
def readFlowMember (hs : Handles) (fuel : Nat) (r : Remainder) :
    Option (List (Tree × Tree) × Remainder) :=
  match fuel with
  | 0 => none
  | fuel + 1 => do
    let (m, r) ← match r.tokens with
      | .key :: ts => readMember hs fuel .flowKey .flowValue { r with tokens := ts }
      | _ => do
        let (k, r) ← readNode hs fuel false false r
        some ((k, .empty), r)
    let (members, r) ← readFlowMembers hs fuel false r
    return (m :: members, r)
end

/-- The directives before a document; a second version or a second meaning of a handle is wrong. -/
def readDirectives (versioned : Bool) (hs : Handles) :
    List Token → Option (Bool × Handles × List Token)
  | .version major minor :: ts =>
    if versioned || major ≠ 1 || (minor ≠ 1 && minor ≠ 2) then none else readDirectives true hs ts
  | .handle name start :: ts =>
    if (hs.lookup name).isSome then none else readDirectives versioned ((name, start) :: hs) ts
  | ts => some (versioned || !hs.isEmpty, hs, ts)

/-- The tree of the first document among the tokens, and what follows it. -/
def firstDocument (ts : List Token) : Option (Tree × List Token) := do
  let fuel := 8 * ts.length + 8
  let (declared, hs, ts) ← readDirectives false [] ts
  let read (ts : List Token) : Option (Tree × List Token) := do
    let (t, r) ← readNode hs fuel true false ⟨[], ts⟩
    return (t, r.tokens)
  match ts with
  | .documentStart :: ts =>
    match ts with
    | .version _ _ :: _ | .handle _ _ :: _ | .documentStart :: _ | .documentEnd :: _
    | .textEnd :: _ =>
      return (.empty, ts)
    | ts => read ts
  | .textEnd :: _ => if declared then none else return (.empty, ts)
  | ts => if declared then none else read ts

/-- The tree of a text that holds one document and nothing after it. -/
def readText? (s : String) : Option Tree := do
  let (t, ts) ← firstDocument (tokens s.toList)
  if ts.dropWhile (· = .documentEnd) == [.textEnd] then return t else none

/-- Decodes a whole text; the decoder sees what it can reach in so many steps. -/
def decodeText {α : Type} (steps : Nat) (d : Decoder α) (s : String) : Except DecodeError α :=
  match readText? s with
  | some t => d (t.document steps)
  | none => .error .malformed

example : (decodeText 3 (Decoder.list Decoder.text) "- a\n-\n- 'b'\n- >\n  c\n  d\n").toOption =
    some ["a", "", "b", "c d\n"] := by decide +kernel

example : (decodeText 3 (Decoder.list Decoder.text) "[&a x, &a y, *a, &b z]").toOption =
    some ["x", "y", "z", "z"] := by decide +kernel

end TrafficTrace.Yaml
