import TrafficTrace.Text.Hex

/-! Sets of characters by ranges of code points, both ends included. The ranges of a set stand in
ascending order with a gap between any two, so that a set has one form. -/
namespace TrafficTrace.Text

abbrev Range := Nat × Nat

structure CharSet where
  ranges : List Range
deriving DecidableEq, Repr

namespace CharSet

def empty : CharSet := ⟨[]⟩

def all : CharSet := ⟨[(0, 0x10FFFF)]⟩

/-- Whether a range holds the number; later ranges hold only larger numbers. -/
def holds : List Range → Nat → Bool
  | [], _ => false
  | (low, high) :: rs, n => low ≤ n && (n ≤ high || holds rs n)

def mem (s : CharSet) (c : Char) : Bool := holds s.ranges c.toNat

/-- Joins the range from `low` to `high` with the ranges that touch it, which start no earlier. -/
def joinFrom (low high : Nat) : List Range → List Range
  | [] => [(low, high)]
  | (a, b) :: rs =>
    if a ≤ high + 1 then joinFrom low (max high b) rs else (low, high) :: joinFrom a b rs

/-- The set of ranges that stand in ascending order and may touch or overlap. -/
def ofSorted : List Range → CharSet
  | [] => empty
  | (a, b) :: rs => ⟨joinFrom a b rs⟩

def single (c : Char) : CharSet := ⟨[(c.toNat, c.toNat)]⟩

/-- Two ascending lists of ranges as one, by the starts of the ranges. -/
def interleave : (fuel : Nat) → List Range → List Range → List Range
  | fuel + 1, r :: rs, s :: ss =>
    if r.1 ≤ s.1 then r :: interleave fuel rs (s :: ss) else s :: interleave fuel (r :: rs) ss
  | _, rs, ss => rs ++ ss

def union (a b : CharSet) : CharSet :=
  ofSorted (interleave (a.ranges.length + b.ranges.length) a.ranges b.ranges)

def unions (sets : List CharSet) : CharSet := sets.foldl union empty

/-- The set of ranges in any order. -/
def ofRanges (rs : List Range) : CharSet := unions (rs.map fun r => ⟨[r]⟩)

/-- The set of many single code points. -/
def ofPoints (ns : List Nat) : CharSet :=
  ofSorted ((ns.mergeSort fun m n => m ≤ n).map fun n => (n, n))

/-- The common parts of two lists of ranges; the range that ends first is done with. -/
def common : (fuel : Nat) → List Range → List Range → List Range
  | fuel + 1, (a, b) :: rs, (c, d) :: ss =>
    let low := max a c
    let high := min b d
    let rest := if b < d then common fuel rs ((c, d) :: ss) else common fuel ((a, b) :: rs) ss
    if low ≤ high then (low, high) :: rest else rest
  | _, _, _ => []

def inter (a b : CharSet) : CharSet :=
  ⟨common (a.ranges.length + b.ranges.length) a.ranges b.ranges⟩

/-- The code point after one; there are no characters from `D800` to `DFFF`. -/
def after (n : Nat) : Nat := if n = 0xD7FF then 0xE000 else n + 1

def before (n : Nat) : Nat := if n = 0xE000 then 0xD7FF else n - 1

/-- What lies between the ranges, from `start` on. -/
def gaps (start : Nat) : List Range → List Range
  | [] => if start ≤ 0x10FFFF then [(start, 0x10FFFF)] else []
  | (a, b) :: rs =>
    if start < a then (start, before a) :: gaps (after b) rs else gaps (after b) rs

def complement (s : CharSet) : CharSet := ⟨gaps 0 s.ranges⟩

def diff (a b : CharSet) : CharSet := a.inter b.complement

def symmetricDiff (a b : CharSet) : CharSet := (a.union b).diff (a.inter b)

def isEmpty (s : CharSet) : Bool := s.ranges.isEmpty

/-- Whether no member lies above the given code point. -/
def isBelow (limit : Nat) (s : CharSet) : Bool := s.ranges.all fun r => r.2 ≤ limit

def isAscii (s : CharSet) : Bool := s.isBelow 0x7F

/-- The only character of a set that has just one. -/
def single? (s : CharSet) : Option Char :=
  match s.ranges with
  | [(a, b)] => if a = b then some (Char.ofNat a) else none
  | _ => none

/-- Ranges as written in `41-5A AA`: hexadecimal, with blanks between them. `low` is the start of
the range whose end is being read. -/
def readRanges : List Char → (low : Option Nat) → (number : Nat) → List Range
  | [], low, n => [(low.getD n, n)]
  | c :: cs, low, n =>
    if c = '-' then readRanges cs (some n) 0
    else if c = ' ' then (low.getD n, n) :: readRanges cs none 0
    else readRanges cs low (n * 16 + (hexValue? c).getD 0)

/-- The set of all ranges written in some lines, in ascending order. -/
def ofLines (lines : List String) : CharSet :=
  ofSorted (lines.flatMap fun line => readRanges line.toList none 0)

example : (ofLines ["41-5A 5F", "61-7A"]).ranges = [(0x41, 0x5A), (0x5F, 0x5F), (0x61, 0x7A)] ∧
    (ofLines ["0-40 5B-10FFFF"]).complement = ofLines ["41-5A"] := by decide +kernel

end CharSet

end TrafficTrace.Text
