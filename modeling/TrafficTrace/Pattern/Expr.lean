import TrafficTrace.Pattern.Class

/-! Expressions in a normal form. A sequence has no sequence as its first part and no two literals in
a row, and alternatives have no alternatives as their first one; the functions `concat`, `anyOf`,
`times` and `ofSet` keep it so. How large an expression is when compiled depends on this form. -/
namespace TrafficTrace.Pattern

open Text (CharSet)

/-- Conditions on a position that use up no character. -/
inductive Look where
  | textStart
  | textEnd
  | lineStart (crlf : Bool)
  | lineEnd (crlf : Bool)
  | boundary (ascii : Bool)
  | notBoundary (ascii : Bool)
  | wordStart (ascii : Bool)
  | wordEnd (ascii : Bool)
  | halfStart (ascii : Bool)
  | halfEnd (ascii : Bool)
deriving DecidableEq, Repr

/-- A set that was written without Unicode is not the same as one with it, even if the members are, and
a repetition that prefers few is not the same as one that prefers many. -/
inductive Expr where
  | empty
  | literal (cs : List Char)
  | set (s : CharSet) (ascii : Bool)
  | look (l : Look)
  /-- A group that is numbered. -/
  | capture (index : Nat) (a : Expr)
  | rep (a : Expr) (least : Nat) (most : Option Nat) (few : Bool)
  | seq (a b : Expr)
  | alt (a b : Expr)
deriving DecidableEq, Repr

namespace Expr

/-- An expression that matches nothing. -/
def fail : Expr := set CharSet.empty true

/-- A set of one character is a literal, and an empty one is `fail`. -/
def ofSet (s : CharSet) (ascii : Bool) : Expr :=
  match s.single? with
  | some c => literal [c]
  | none => if s.isEmpty then fail else set s ascii

/-- The parts of a sequence in order. -/
def parts : Expr → List Expr
  | empty => []
  | seq a b => a :: b.parts
  | a => [a]

def ofParts : List Expr → Expr
  | [] => empty
  | [a] => a
  | a :: rest => seq a (ofParts rest)

/-- A part in front of others; two literals become one. -/
def prepend : Expr → List Expr → List Expr
  | literal a, literal b :: rest => literal (a ++ b) :: rest
  | a, rest => a :: rest

/-- One expression after the other. -/
def concat (es : List Expr) : Expr := ofParts ((es.flatMap parts).foldr prepend [])

/-- The alternatives in order. -/
def branches : Expr → List Expr
  | alt a b => a :: b.branches
  | a => [a]

def ofBranches : List Expr → Expr
  | [] => fail
  | [a] => a
  | a :: rest => alt a (ofBranches rest)

def singleChar? : Expr → Option Char
  | literal [c] => some c
  | _ => none

def set? : Expr → Option CharSet
  | set s _ => some s
  | _ => none

/-- Alternatives that are all single characters, or all sets, are one set. -/
def unite (es : List Expr) : Expr :=
  match es with
  | [] => fail
  | [a] => a
  | _ =>
    match es.mapM singleChar? with
    | some cs => ofSet (CharSet.ofRanges (cs.map fun c => (c.toNat, c.toNat))) false
    | none =>
      match es.mapM set? with
      | some sets => ofSet (CharSet.unions sets) false
      | none => ofBranches es

def commonStart : List Expr → List Expr → List Expr
  | a :: as, b :: bs => if a = b then a :: commonStart as bs else []
  | _, _ => []

/-- The parts of an expression that is a sequence of two or more. -/
def sequence? : Expr → Option (List Expr)
  | seq a b => some (a :: b.parts)
  | _ => none

/-- The parts with which all alternatives begin, if all are sequences. -/
def sharedStart (es : List Expr) : List Expr :=
  match es.mapM sequence? with
  | some (first :: rest) => rest.foldl commonStart first
  | _ => []

/-- One of several expressions. What all of them begin with stands in front. -/
def anyOf (es : List Expr) : Expr :=
  let es := es.flatMap branches
  match unite es with
  | alt a b =>
    match sharedStart es with
    | [] => alt a b
    | shared =>
      let rests := es.map fun e => ofParts (e.parts.drop shared.length)
      concat (shared ++ [unite (rests.flatMap branches)])
  | e => e

/-- The fewest characters of a match; none when some part has none. -/
def minLength : Expr → Option Nat
  | empty => some 0
  | literal cs => some cs.length
  | set s _ => if s.isEmpty then none else some 1
  | look _ => some 0
  | capture _ a => a.minLength
  | rep a least _ _ => a.minLength.map (least * ·)
  | seq a b => match a.minLength, b.minLength with
    | some m, some n => some (m + n)
    | _, _ => none
  | alt a b => match a.minLength, b.minLength with
    | some m, some n => some (min m n)
    | _, _ => none

/-- Whether every match is empty. -/
def isZeroWidth : Expr → Bool
  | empty => true
  | literal _ => false
  | set _ _ => false
  | look _ => true
  | capture _ a => a.isZeroWidth
  | rep a _ most _ => most.isSome && a.isZeroWidth
  | seq a b => a.isZeroWidth && b.isZeroWidth
  | alt a b => a.isZeroWidth && b.isZeroWidth

/-- An expression several times. Once is enough for one that uses up no characters. -/
def times (a : Expr) (least : Nat) (most : Option Nat) (few : Bool) : Expr :=
  let (least, most) :=
    if a.isZeroWidth then (min least 1, some (min (most.getD 1) 1)) else (least, most)
  if most = some 0 then empty
  else if least = 1 && most = some 1 then a
  else rep a least most few

/-- Whether a match has to begin at the start of the text. -/
def isAnchoredAtStart : Expr → Bool
  | look l => l == .textStart
  | capture _ a => a.isAnchoredAtStart
  | rep a least _ _ => 0 < least && a.isAnchoredAtStart
  | seq a b => a.isAnchoredAtStart || (a.isZeroWidth && b.isAnchoredAtStart)
  | alt a b => a.isAnchoredAtStart && b.isAnchoredAtStart
  | _ => false

/-- Whether a match has to end at the end of the text. -/
def isAnchoredAtEnd : Expr → Bool
  | look l => l == .textEnd
  | capture _ a => a.isAnchoredAtEnd
  | rep a least _ _ => 0 < least && a.isAnchoredAtEnd
  | seq a b => b.isAnchoredAtEnd || (b.isZeroWidth && a.isAnchoredAtEnd)
  | alt a b => a.isAnchoredAtEnd && b.isAnchoredAtEnd
  | _ => false

end Expr

end TrafficTrace.Pattern
