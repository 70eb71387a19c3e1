import Std.Data.HashMap
import TrafficTrace.Pattern.ByteRange
import TrafficTrace.Pattern.Expr

/-! The size of the machines that an expression is compiled to: one that reads a text forward and one
that reads it backward. A state takes 32 bytes, a branching state four more for each way on, and a
state with several transitions eight more for each. Copies of a repeated part are all built. A pattern
is refused when one of its machines takes more than ten mebibytes. -/
namespace TrafficTrace.Pattern

open Text (CharSet)

/-- How much has been built: the number of states and the bytes they take. -/
structure Built where
  states : Nat
  bytes : Nat
deriving DecidableEq, Repr

def sizeLimit : Nat := 10 * 1048576

namespace Built

/-- Some more states that take the given number of bytes. -/
def plus (states bytes : Nat) (b : Built) : Option Built :=
  if sizeLimit < b.bytes + bytes then none else some ⟨b.states + states, b.bytes + bytes⟩

/-- One more state; `extra` bytes are for its transitions. -/
def state (extra : Nat) (b : Built) : Option Built := b.plus 1 (32 + extra)

/-- More ways on from branching states that are there. -/
def ways (n : Nat) (b : Built) : Built := ⟨b.states, b.bytes + 4 * n⟩

end Built

/-- A part that has been built. When its last state branches, the link to what follows is one more way
on from that state. -/
structure Part where
  built : Built
  branching : Bool

def Part.linked (p : Part) : Built := if p.branching then p.built.ways 1 else p.built

/-! ### Sets -/

/-- A transition for some bytes to the state of the given number. -/
structure Edge where
  low : Nat
  high : Nat
  next : Nat
deriving DecidableEq, Repr

/-- A number for a list of numbers, by the multiplication and exclusive-or of Fowler, Noll and Vo. -/
def slotOf (slots : Nat) (numbers : List Nat) : Nat :=
  (numbers.foldl (fun (h : UInt64) (n : Nat) => (h ^^^ n.toUInt64) * 1099511628211)
    14695981039346656037).toNat % slots

/-- States of a set that may be shared: the last one for each slot. -/
abbrev Shared := Std.HashMap Nat (List Edge × Nat)

/-- A new state with the given transitions, kept in the slot. -/
def newNode (slot : Nat) (edges : List Edge) (extra : Nat) (built : Built) (shared : Shared) :
    Option ((Built × Shared) × Nat) :=
  (built.state extra).map fun next =>
    ((next, shared.insert slot (edges, built.states)), built.states)

/-- A state with the given transitions, unless the slot holds such a state already. -/
def addNode (slots : Nat) (key : List Nat) (edges : List Edge) (extra : Nat) (built : Built)
    (shared : Shared) : Option ((Built × Shared) × Nat) :=
  let slot := slotOf slots key
  match shared[slot]? with
  | some (known, state) =>
    if known = edges then some ((built, shared), state)
    else newNode slot edges extra built shared
  | none => newNode slot edges extra built shared

/-- The state from which the sequences, none longer than `depth`, lead to `target`. Sequences that
begin with the same range share a transition. -/
def addTree (target : Nat) : (depth : Nat) → List ByteRanges → Built × Shared →
    Option ((Built × Shared) × Nat)
  | 0, _, b => some (b, target)
  | depth + 1, seqs, b =>
    if seqs.all (·.isEmpty) then some (b, target)
    else do
      let (b, edges) ← (seqs.splitBy fun p q => p.head? == q.head?).foldlM
        (fun (b, edges) group => do
          let (b, next) ← addTree target depth (group.map (·.drop 1)) b
          match group.head?.bind (·.head?) with
          | some r => return (b, Edge.mk r.low r.high next :: edges)
          | none => return (b, edges))
        (b, [])
      let edges := edges.reverse
      addNode 10000 (edges.flatMap fun e => [e.low, e.high, e.next]) edges (8 * edges.length)
        b.1 b.2

/-- The states that read one sequence from its end to its start; the last one leads to `target`. -/
def addChain (target : Nat) (seq : ByteRanges) (b : Built × Shared) : Option (Built × Shared) := do
  let (b, _) ← seq.foldlM
    (fun ((built, shared), next) r =>
      addNode 1000 [next, r.low, r.high] [⟨r.low, r.high, next⟩] 0 built shared) (b, target)
  return (b.1.ways 1, b.2)

def buildSet (backward : Bool) (s : CharSet) (b : Built) : Option Built :=
  if s.isEmpty then b.state 0
  else if s.isAscii then do (← b.state 0).state (8 * s.ranges.length)
  else if backward then do
    let b ← (← b.state 0).state 0
    let target := b.states - 1
    let b ← (ByteRanges.ofCharSet s).foldlM (fun b seq => addChain target seq b) (b, ∅)
    return b.1
  else do
    let start ← b.state 0
    let (b, _) ← addTree b.states 4 (ByteRanges.ofCharSet s) (start, ∅)
    return b.1

/-! ### Literals as alternatives -/

/-- The pieces between the empty lists, and how many empty lists there are. -/
def chunks : List (List UInt8) → List (List (List UInt8)) × Nat
  | [] => ([[]], 0)
  | [] :: rest => let (pieces, ends) := chunks rest; ([] :: pieces, ends + 1)
  | bytes :: rest =>
    match chunks rest with
    | (piece :: pieces, ends) => ((bytes :: piece) :: pieces, ends)
    | ([], ends) => ([[bytes]], ends)

/-- The lists with the first bytes of each, one group for each first byte. -/
def byFirst (ss : List (List UInt8)) : List (List (List UInt8)) :=
  let firsts := (ss.filterMap (·.head?)).eraseDups
  firsts.map fun f => (ss.filter fun s => s.head? == some f).map (·.drop 1)

/-- States and bytes of the tree of some literals, each no longer than `depth`. A literal that ends
where others go on parts the ways of the earlier ones from those of the later ones. -/
def treeSize : (depth : Nat) → List (List UInt8) → Nat × Nat
  | 0, _ => (0, 0)
  | depth + 1, ss =>
    if ss.all (·.isEmpty) then (0, 0)
    else
      -- an end counts once before the first way on
      let ss := match ss with
        | [] :: rest => [] :: rest.dropWhile (·.isEmpty)
        | ss => ss
      let (pieces, ends) := chunks ss
      let groups := (pieces.filter (!·.isEmpty)).map byFirst
      let here := groups.foldl
        (fun (states, bytes) g =>
          (states + 1, bytes + 32 + if g.length = 1 then 0 else 8 * g.length))
        (1, 32 + 4 * (groups.length + ends))
      groups.foldl
        (fun total g => g.foldl
          (fun (states, bytes) tails =>
            let (s, n) := treeSize depth tails
            (states + s, bytes + n))
          total)
        here

def literalBytes? : Expr → Option (List UInt8)
  | .literal cs => some (Text.utf8 cs)
  | _ => none

def buildLiterals (backward : Bool) (literals : List (List UInt8)) (b : Built) : Option Built :=
  let literals := if backward then literals.map List.reverse else literals
  let longest := (literals.map List.length).foldl max 0
  let (states, bytes) := treeSize (longest + 1) literals
  b.plus (states + 1) (bytes + 32)

/-! ### Expressions -/

/-- Takes a step `n` times, as long as it can be taken. -/
def repeatStep {α : Type} (f : α → Option α) : Nat → α → Option α
  | 0, x => some x
  | n + 1, x =>
    match f x with
    | some y => repeatStep f n y
    | none => none

/-- `n` copies of a part in a row. -/
def copies (build : Built → Option Part) (n : Nat) (b : Built) : Option Part :=
  match n with
  | 0 => do return ⟨← b.state 0, false⟩
  | n + 1 => do repeatStep (fun p => build p.linked) n (← build b)

/-- Up to `n` more copies of a part, each of which may be the last. -/
def optionalCopies (build : Built → Option Part) (n : Nat) (p : Part) : Option Part := do
  let p ← repeatStep (fun p => do build (← (p.linked.ways 2).state 0)) n p
  return ⟨p.linked, false⟩

def buildRep (build : Built → Option Part) (neverEmpty : Bool) (least : Nat) (most : Option Nat)
    (b : Built) : Option Part :=
  match least, most with
  | 0, some 1 => do
    let p ← build (← b.state 0)
    return ⟨(← p.linked.state 0).ways 2, false⟩
  | 0, none => do
    if neverEmpty then
      let p ← build (← b.state 0)
      return ⟨p.linked.ways 1, true⟩
    else
      let p ← build b
      let b ← (← (← p.linked.state 0).state 0).state 0
      return ⟨b.ways 4, false⟩
  | n + 1, none => do
    let p ← if n = 0 then build b else do build (← copies build n b).linked
    return ⟨(← p.linked.state 0).ways 1, true⟩
  | least, some most => do
    let p ← copies build least b
    if least = most then return p
    optionalCopies build (most - least) ⟨← p.built.state 0, p.branching⟩

namespace Expr

def isAlt : Expr → Bool
  | alt _ _ => true
  | _ => false

/-- Builds an expression. Of alternatives, `earlier` have been built before; the states where they
part and meet are made after the second. -/
def build (backward : Bool) : Expr → (earlier : Nat) → Built → Option Part
  | empty, _, b => do return ⟨← b.state 0, false⟩
  | literal cs, _, b =>
    let n := (Text.utf8 cs).length
    do return ⟨← b.plus n (32 * n), false⟩
  | set s _, _, b => do return ⟨← buildSet backward s b, false⟩
  | look _, _, b => do return ⟨← b.state 0, false⟩
  | capture _ a, _, b =>
    if backward then a.build backward 0 b
    else do
      let p ← a.build backward 0 (← b.state 0)
      return ⟨← p.linked.state 0, false⟩
  | rep a least most _, _, b =>
    buildRep (a.build backward 0) (0 < a.minLength.getD 0) least most b
  | seq x y, _, b =>
    if backward then do x.build backward 0 (← y.build backward 0 b).linked
    else do y.build backward 0 (← x.build backward 0 b).linked
  | alt x y, earlier, b =>
    match if earlier = 0 then (alt x y).branches.mapM literalBytes? else none with
    | some literals => do return ⟨← buildLiterals backward literals b, false⟩
    | none => do
      let meet (b : Built) := do (← b.state 0).state 0
      let b := (← x.build backward 0 b).linked.ways 1
      let p ← y.build backward (earlier + 1) (← if earlier = 1 then meet b else some b)
      if y.isAlt then return p
      let b := p.linked.ways 1
      return ⟨← if earlier = 0 then meet b else some b, false⟩

/-- The machine for a whole pattern. It skips bytes in front unless a match has to begin there, and
only the one that reads forward marks where groups begin and end. -/
def machine (backward : Bool) (e : Expr) : Option Built := do
  let anchored := if backward then e.isAnchoredAtEnd else e.isAnchoredAtStart
  let start ← (Built.mk 0 0).plus (if anchored then 1 else 3) (if anchored then 32 else 112)
  let inner := if backward then e else capture 0 e
  let p ← inner.build backward 0 start
  let b ← p.built.state 0
  (Part.mk b p.branching).linked.plus 0 0

/-- Whether both machines are small enough. -/
def isSmall (e : Expr) : Bool := (e.machine false).isSome && (e.machine true).isSome

end Expr

end TrafficTrace.Pattern
