/-! Finite binary64 numbers as a sign, a mantissa and a power of two, with correctly rounded
arithmetic on natural numbers. No machine float is involved. -/
namespace TrafficTrace.Number

/-- The quotient rounded to the nearest integer; a half goes to the even neighbour. -/
def roundQuotient (num den : Nat) : Nat :=
  let q := num / den
  let r := num % den
  if 2 * r < den then q
  else if den < 2 * r then q + 1
  else if q % 2 = 0 then q else q + 1

/-- `(-1)^negative · mantissa · 2^exponent`. The mantissa has at most 53 bits, and fewer than 53
only with the least exponent, -1074. -/
structure Binary64 where
  negative : Bool
  mantissa : Nat
  exponent : Int
deriving DecidableEq, Repr

namespace Binary64

def leastExponent : Int := -1074
def greatestExponent : Int := 971
def mantissaLimit : Nat := 9007199254740992

/-- The least mantissa of 53 bits. -/
def leastFull : Nat := 4503599627370496

def zero (negative : Bool) : Binary64 := ⟨negative, 0, leastExponent⟩

def isZero (x : Binary64) : Bool := x.mantissa == 0

def neg (x : Binary64) : Binary64 := { x with negative := !x.negative }

/-- The magnitude as a fraction. -/
def num (x : Binary64) : Nat := x.mantissa * Nat.pow 2 x.exponent.toNat
def den (x : Binary64) : Nat := Nat.pow 2 (-x.exponent).toNat

/-- The exponent at which `num / den` has 53 bits before the point, or the least one. -/
def exponentOf (num den : Nat) : Int :=
  let guess : Int := (num.log2 : Int) - (den.log2 : Int) - 52
  -- the quotient of the logarithms is off by at most one
  let isBelow := num * Nat.pow 2 (-guess).toNat < den * Nat.pow 2 guess.toNat * leastFull
  let e := if isBelow then guess - 1 else guess
  max e leastExponent

/-- The nearest number to `num / den`, and none above the greatest finite one. -/
def ofRatio? (negative : Bool) (num den : Nat) : Option Binary64 :=
  if num = 0 then some (zero negative)
  else
    let e := exponentOf num den
    let m := roundQuotient (num * Nat.pow 2 (-e).toNat) (den * Nat.pow 2 e.toNat)
    let (m, e) := if m = mantissaLimit then (m / 2, e + 1) else (m, e)
    if e > greatestExponent then none else some ⟨negative, m, e⟩

def ofNat? (n : Nat) : Option Binary64 := ofRatio? false n 1

def mul? (x y : Binary64) : Option Binary64 :=
  ofRatio? (x.negative != y.negative) (x.num * y.num) (x.den * y.den)

/-- Division by a number other than zero. -/
def div? (x y : Binary64) : Option Binary64 :=
  ofRatio? (x.negative != y.negative) (x.num * y.den) (x.den * y.num)

/-- The least integer not below the number; negative numbers give zero. -/
def ceilNat (x : Binary64) : Nat :=
  if x.negative then 0 else (x.num + x.den - 1) / x.den

example : ofRatio? false 1 3 = some ⟨false, 6004799503160661, -54⟩ := by decide +kernel
example : ofRatio? false 1 (10 ^ 400) = some (zero false) ∧ ofRatio? false (10 ^ 309) 1 = none := by
  decide +kernel

end Binary64

end TrafficTrace.Number
