import TrafficTrace.Pattern.Expr

/-! Patterns and the texts in which they occur. Sets of positions are numbers: position `i` belongs
to the set when bit `i` is one. On a text an expression becomes a walk, which takes a set of starts to
the set of all possible ends. -/
namespace TrafficTrace.Pattern

open Text (CharSet)

def wordBefore (ascii : Bool) (c : Option Char) : Bool :=
  match c with
  | none => false
  | some c => if ascii then isAsciiWord c else isWord c

/-- Whether the condition holds between two neighbouring characters. -/
def Look.holds (l : Look) (before after : Option Char) : Bool :=
  match l with
  | textStart => before.isNone
  | textEnd => after.isNone
  | lineStart false => before.isNone || before == some '\n'
  | lineStart true =>
    before.isNone || before == some '\n' || (before == some '\r' && after != some '\n')
  | lineEnd false => after.isNone || after == some '\n'
  | lineEnd true =>
    after.isNone || after == some '\r' || (after == some '\n' && before != some '\r')
  | boundary a => wordBefore a before != wordBefore a after
  | notBoundary a => wordBefore a before == wordBefore a after
  | wordStart a => !wordBefore a before && wordBefore a after
  | wordEnd a => wordBefore a before && !wordBefore a after
  | halfStart a => !wordBefore a before
  | halfEnd a => !wordBefore a after

/-- The positions before the characters that satisfy `p`. -/
def charBits (p : Char → Bool) : List Char → Nat
  | [] => 0
  | c :: cs => (if p c then 1 else 0) + 2 * charBits p cs

/-- The positions that satisfy a condition. -/
def lookBits (l : Look) (before : Option Char) : List Char → Nat
  | [] => if l.holds before none then 1 else 0
  | c :: cs => (if l.holds before (some c) then 1 else 0) + 2 * lookBits l (some c) cs

/-- An expression on one text, with the positions where its characters and conditions hold. -/
inductive Walk where
  | stay
  /-- One character, from these positions. -/
  | step (bits : Nat)
  | check (bits : Nat)
  | rep (w : Walk) (least : Nat) (most : Option Nat)
  | seq (a b : Walk)
  | alt (a b : Walk)

/-- The characters of a literal one by one. -/
def Walk.ofLiteral (text : List Char) : List Char → Walk
  | [] => stay
  | [c] => step (charBits (· == c) text)
  | c :: cs => seq (step (charBits (· == c) text)) (ofLiteral text cs)

def Expr.walk (text : List Char) : Expr → Walk
  | empty => .stay
  | literal cs => Walk.ofLiteral text cs
  | set s _ => .step (charBits s.mem text)
  | look l => .check (lookBits l none text)
  | capture _ a => a.walk text
  | rep a least most _ => .rep (a.walk text) least most
  | seq a b => .seq (a.walk text) (b.walk text)
  | alt a b => .alt (a.walk text) (b.walk text)

/-- `f` applied `n` times, or fewer when nothing changes any more. -/
def iterate (f : Nat → Nat) : Nat → Nat → Nat
  | 0, s => s
  | n + 1, s =>
    let t := f s
    if t = s then s else iterate f n t

/-- The union of `s` and of what up to `n` applications of `f` make of it. -/
def gather (f : Nat → Nat) : (n s all : Nat) → Nat
  | 0, _, all => all
  | n + 1, s, all =>
    let t := f s
    let more := all ||| t
    if more = all then all else gather f n t more

/-- The ends of walks from the given starts, in a text of `size` characters. -/
def Walk.ends (size : Nat) : Walk → Nat → Nat
  | stay, starts => starts
  | step bits, starts => (starts &&& bits) <<< 1
  | check bits, starts => starts &&& bits
  | seq a b, starts => b.ends size (a.ends size starts)
  | alt a b, starts => a.ends size starts ||| b.ends size starts
  | rep a least most, starts =>
    let start := iterate (a.ends size) least starts
    gather (a.ends size) (match most with
      | some m => m - least
      | none => size + 2) start start

/-- Whether the expression matches anywhere in the text. -/
def Expr.occursIn (e : Expr) (text : List Char) : Bool :=
  (e.walk text).ends text.length (1 <<< (text.length + 1) - 1) != 0

end TrafficTrace.Pattern
