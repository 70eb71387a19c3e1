import TrafficTrace.Pattern.Escape

/-! Classes in brackets: characters, ranges, named classes, classes within classes, and differences and
common parts of all these. -/
namespace TrafficTrace.Pattern

open Text (CharSet)

inductive SetOp where
  | inter
  | diff
  | symmetric

def SetOp.apply : SetOp → CharSet → CharSet → CharSet
  | inter, a, b => a.inter b
  | diff, a, b => a.diff b
  | symmetric, a, b => a.symmetricDiff b

/-- A named class after its opening bracket, as in `[:alpha:]`: whether it is negated, its members, and
what follows. -/
def namedClass? (cs : List Char) : Option (Bool × CharSet × List Char) :=
  match cs with
  | ':' :: r =>
    let (negated, r) := match r with
      | '^' :: r => (true, r)
      | r => (false, r)
    let name := r.takeWhile (· ≠ ':')
    match r.drop name.length with
    | ':' :: ']' :: rest => (asciiClass? (String.ofList name)).map fun s => (negated, s, rest)
    | _ => none
  | _ => none

def classAtom (fl : Flags) : List Char → Except Fault (Parsed Atom)
  | [] => .error .unclosedClass
  | '\\' :: r => escape fl r
  | c :: r => .ok (.char c, r)

/-- A character of a class; without Unicode it has to be ASCII. -/
def classChar (fl : Flags) (c : Char) : Except Fault Char :=
  if fl.unicode || c.toNat < 0x80 then .ok c else .error .notUnicode

def atomSet (fl : Flags) : Atom → Except Fault CharSet
  | .char c => do return .single (← classChar fl c)
  | .set s => .ok s
  | .look _ => .error .badClassItem

def atomChar (fl : Flags) : Atom → Except Fault Char
  | .char c => classChar fl c
  | _ => .error .badRange

/-- A character, an escape or a range. -/
def classItem (fl : Flags) (cs : List Char) : Except Fault (Parsed CharSet) := do
  let (first, rest) ← classAtom fl cs
  match skip fl rest with
  | [] => .error .unclosedClass
  | '-' :: r =>
    match skip fl r with
    | [] => .error .unclosedClass
    | c :: r' =>
      if c = ']' ∨ c = '-' then return (← atomSet fl first, '-' :: r)
      else
        let (second, rest) ← classAtom fl (c :: r')
        let low ← atomChar fl first
        let high ← atomChar fl second
        if low ≤ high then return (⟨[(low.toNat, high.toNat)]⟩, rest) else .error .badRange
  | rest => return (← atomSet fl first, rest)

/-- What a class names between two operators: its sets, the last one first, and how deeply classes are
nested in them. -/
structure Members where
  sets : List CharSet
  depth : Nat

namespace Members

def none : Members := ⟨[], 0⟩

def add (m : Members) (s : CharSet) (depth : Nat) : Members := ⟨s :: m.sets, max m.depth depth⟩

def all (m : Members) : CharSet := CharSet.unions m.sets

/-- Two or more sets side by side count as one more level. -/
def nesting (m : Members) : Nat := if m.sets.length ≤ 1 then m.depth else m.depth + 1

end Members

/-- What stands before an operator, how deeply it is nested, and the operator. -/
structure LeftOperand where
  set : CharSet
  depth : Nat
  op : SetOp

/-- The members, or the result of the operator before them, and how deeply that is nested. -/
def result (fl : Flags) (left : Option LeftOperand) (m : Members) : CharSet × Nat :=
  match left with
  | some l => (l.op.apply (folded fl l.set) (folded fl m.all), max l.depth m.nesting + 1)
  | none => (m.all, m.nesting)

/-- Hyphens at the start of a class stand for themselves. -/
def leadingHyphens (fl : Flags) : (fuel : Nat) → Members → List Char → Members × List Char
  | 0, m, cs => (m, cs)
  | fuel + 1, m, cs =>
    match cs with
    | '-' :: r => leadingHyphens fl fuel (m.add (.single '-') 0) (skip fl r)
    | cs => (m, cs)

/-- The start of a class after its bracket: whether it is negated, and its first members. -/
def classStart (fl : Flags) (cs : List Char) : Bool × Members × List Char :=
  let cs := skip fl cs
  let (negated, cs) := match cs with
    | '^' :: r => (true, skip fl r)
    | r => (false, r)
  match cs with
  | ']' :: r => (negated, Members.none.add (.single ']') 0, skip fl r)
  | cs =>
    let (m, cs) := leadingHyphens fl cs.length .none cs
    (negated, m, cs)

/-- The members of a class up to its closing bracket, and how deeply classes are nested in it. -/
def classBody (fl : Flags) (negated : Bool) : (fuel : Nat) → Members → Option LeftOperand →
    List Char → Except Fault (Parsed (CharSet × Nat))
  | 0, _, _, _ => .error .unclosedClass
  | fuel + 1, m, left, cs =>
    let operator (op : SetOp) (r : List Char) :=
      let (s, depth) := result fl left m
      classBody fl negated fuel .none (some ⟨s, depth, op⟩) r
    match skip fl cs with
    | [] => .error .unclosedClass
    | ']' :: r => do
      let (s, depth) := result fl left m
      return ((← foldedSet fl negated s, depth + 1), r)
    | '&' :: '&' :: r => operator .inter r
    | '-' :: '-' :: r => operator .diff r
    | '~' :: '~' :: r => operator .symmetric r
    | '[' :: r =>
      match namedClass? r with
      | some (neg, s, rest) => do
        classBody fl negated fuel (m.add (← foldedSet fl neg s) 0) left rest
      | none => do
        let (neg, first, r) := classStart fl r
        let ((s, depth), rest) ← classBody fl neg fuel first none r
        classBody fl negated fuel (m.add s depth) left rest
    | cs => do
      let (s, rest) ← classItem fl cs
      classBody fl negated fuel (m.add s 0) left rest

/-- A class after its opening bracket, and how deeply it is nested. -/
def parseClass (fl : Flags) (cs : List Char) : Except Fault (Parsed (CharSet × Nat)) :=
  let (negated, first, r) := classStart fl cs
  classBody fl negated (cs.length + 1) first none r

end TrafficTrace.Pattern
