import TrafficTrace.Document.Node

/-! The value of a number in JSON text. Digits are collected into 64 bits; those that do not fit
raise the exponent, or are dropped after the point. A number with a point, an exponent or too many
digits is the product or quotient of the two rounded parts. -/
namespace TrafficTrace.Json

open Number Document

/-- A number's parts as written. `fraction` and `exponent` are `none` when absent. -/
structure NumberText where
  negative : Bool
  whole : List Nat
  fraction : Option (List Nat)
  exponent : Option (Bool × List Nat)
deriving DecidableEq, Repr

def wordLimit : Nat := UInt64.size

/-- Appends digits as long as the number stays below `2^64`; gives the digits left over. -/
def collect (acc : Nat) : List Nat → Nat × List Nat
  | [] => (acc, [])
  | d :: ds => if acc * 10 + d < wordLimit then collect (acc * 10 + d) ds else (acc, d :: ds)

/-- `significand · 10^exponent`, with powers of ten up to 10^308 in one step. -/
def scale? (x : Binary64) (exponent : Int) : Nat → Option Binary64
  | 0 => none
  | fuel + 1 =>
    let power (n : Nat) := Binary64.ofNat? (Nat.pow 10 n)
    if exponent.natAbs ≤ 308 then do
      let p ← power exponent.natAbs
      if 0 ≤ exponent then x.mul? p else x.div? p
    else if x.isZero then some x
    else if 0 ≤ exponent then none
    else do
      let p ← power 308
      let y ← x.div? p
      scale? y (exponent + 308) fuel

def exponentLimit : Nat := 2147483648

def digitsValue (ds : List Nat) : Nat := ds.foldl (fun n d => n * 10 + d) 0

namespace NumberText

/-- A number that is not an integer of 64 bits, and none above the greatest float. -/
def float? (t : NumberText) (significand : Nat) (shift : Int) : Option Binary64 := do
  let signed (x : Binary64) : Binary64 := { x with negative := t.negative }
  match t.exponent with
  | some (negative, ds) =>
    let e := digitsValue ds
    if exponentLimit ≤ e then
      if significand ≠ 0 ∧ !negative then none else return .zero t.negative
    else
      let shift := if negative then shift - e else shift + e
      return signed (← scale? (← Binary64.ofNat? significand) shift 8)
  | none => return signed (← scale? (← Binary64.ofNat? significand) shift 8)

def value? (t : NumberText) : Option Numeral :=
  let (significand, excess) := collect 0 t.whole
  let (significand, shift) : Nat × Int := match t.fraction with
    | none => (significand, excess.length)
    | some ds =>
      let (significand, dropped) := collect significand ds
      (significand, excess.length - (ds.length - dropped.length : Nat))
  if t.fraction.isNone ∧ t.exponent.isNone ∧ excess.isEmpty ∧
      (!t.negative ∨ (0 < significand ∧ significand ≤ 9223372036854775808)) then
    some (.int (if t.negative then -significand else significand))
  else (t.float? significand shift).map .float

end NumberText

end TrafficTrace.Json
