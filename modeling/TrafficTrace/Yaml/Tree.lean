import TrafficTrace.Document.Node
import TrafficTrace.Yaml.Scalar
import TrafficTrace.Yaml.Tag

/-! YAML nodes as they are written, and the documents that they stand for. References go by number. A
node that is written later can have the number of an earlier one, and then every reference to the
number means the later node, wherever it stands. -/
namespace TrafficTrace.Yaml

open Document

inductive Tree where
  | scalar (text : String) (style : Style) (tag : Option String)
  | sequence (items : List Tree)
  | mapping (members : List (Tree × Tree))
  /-- A node that references can mean. -/
  | anchored (number : Nat) (inner : Tree)
  | reference (number : Nat)
deriving Repr, Inhabited

/-- A scalar that is not written, where there has to be one. -/
def Tree.empty : Tree := .scalar "" .plain none

/-- The numbers of the names that were given to nodes so far. -/
abbrev Names := List (String × Nat)

namespace Names

/-- A name gets the number of names that there are. A name that is given again gets a number too, but
does not count twice. -/
def give (names : Names) (name : String) : Names :=
  (name, names.length) :: names.filter (·.1 ≠ name)

end Names

namespace Tree

mutual
/-- The nodes that references can mean, in the order of their first characters. -/
def targets : Tree → List (Nat × Tree)
  | .scalar _ _ _ | .reference _ => []
  | .sequence items => targetsOfItems items
  | .mapping members => targetsOfMembers members
  | .anchored n inner => (n, inner) :: targets inner

def targetsOfItems : List Tree → List (Nat × Tree)
  | [] => []
  | t :: ts => targets t ++ targetsOfItems ts

def targetsOfMembers : List (Tree × Tree) → List (Nat × Tree)
  | [] => []
  | (k, v) :: ms => targets k ++ (targets v ++ targetsOfMembers ms)
end

/-- A plain scalar can be anything, a literal block what its tag says, and the others are texts. -/
def scalarNode (text : String) (style : Style) (tag : Option String) : Node :=
  match style, tag with
  | .plain, none => .plain text
  | .plain, some t => .tagged text (t = coreTag "null")
  | .literal, some t =>
    if t = coreTag "bool" then .lines text .bool
    else if t = coreTag "int" then .lines text .nat
    else .string (some text)
  | _, _ => .string (some text)

/-- A member of a mapping. A key that is not a scalar denotes nothing. -/
def memberNode (key value : Node) : Option String × Node :=
  match key with
  | .plain s | .tagged s _ | .lines s _ | .string (some s) => (some s, value)
  | key => (none, .array [key, value] true)

/-- The document of a tree. It takes a step to look into a collection or an anchored node, or to follow
a reference; what lies further away denotes nothing. -/
def node (targets : List (Nat × Tree)) : Nat → Tree → Node
  | _, .scalar text style tag => scalarNode text style tag
  | 0, _ => .number none
  | steps + 1, .sequence items => .sequence (items.map (node targets steps)) true
  | steps + 1, .mapping members =>
    .object (members.map fun m => memberNode (node targets steps m.1) (node targets steps m.2)) true
  | steps + 1, .anchored _ inner => node targets steps inner
  | steps + 1, .reference n =>
    match targets.lookup n with
    | some t => node targets steps t
    | none => .number none

/-- The document of a whole text's tree: of the nodes with one number, references mean the last. -/
def document (steps : Nat) (t : Tree) : Node := t.node t.targets.reverse steps

end Tree

end TrafficTrace.Yaml
