import TrafficTrace.Number.Binary64

/-! The shortest decimal that reads back as a given binary64 number, and its layout in text. -/
namespace TrafficTrace.Number

/-- `digits · 10^exponent`. -/
structure Decimal where
  digits : Nat
  exponent : Int
deriving DecidableEq, Repr

namespace Binary64

/-- The reals that round to `x`, as `low / scale` and `high / scale` around `mid / scale`. The ends
belong to it when the mantissa is even. -/
structure Interval where
  low : Nat
  mid : Nat
  high : Nat
  scale : Nat
  closed : Bool

def interval (x : Binary64) : Interval :=
  let up := Nat.pow 2 x.exponent.toNat
  let scale := 4 * Nat.pow 2 (-x.exponent).toNat
  -- below a power of two the neighbour is half as far away
  let narrow := x.mantissa = Binary64.leastFull ∧ x.exponent > leastExponent
  { low := (4 * x.mantissa - if narrow then 1 else 2) * up
    mid := 4 * x.mantissa * up
    high := (4 * x.mantissa + 2) * up
    scale := scale
    closed := x.mantissa % 2 = 0 }

/-- Whether `d · 10^e` lies in the interval. -/
def Interval.holds (i : Interval) (d : Nat) (e : Int) : Bool :=
  let value := d * Nat.pow 10 e.toNat * i.scale
  let unit := Nat.pow 10 (-e).toNat
  if i.closed then i.low * unit ≤ value && value ≤ i.high * unit
  else i.low * unit < value && value < i.high * unit

/-- The distance of `d · 10^e` from the middle, in a unit that depends on `e` alone. -/
def Interval.distance (i : Interval) (d : Nat) (e : Int) : Nat :=
  let value := d * Nat.pow 10 e.toNat * i.scale
  let mid := i.mid * Nat.pow 10 (-e).toNat
  max value mid - min value mid

/-- The better of the two neighbours of the middle among the multiples of `10^e`, if one of them
lies in the interval. An exact tie goes to the even neighbour. -/
def Interval.nearest? (i : Interval) (e : Int) : Option Nat :=
  let d := i.mid * Nat.pow 10 (-e).toNat / (i.scale * Nat.pow 10 e.toNat)
  match i.holds d e, i.holds (d + 1) e with
  | false, false => none
  | true, false => some d
  | false, true => some (d + 1)
  | true, true =>
    let a := i.distance d e
    let b := i.distance (d + 1) e
    some (if a < b then d else if b < a then d + 1 else if d % 2 = 0 then d else d + 1)

/-- Tries the powers of ten from `e` downwards. -/
def Interval.search (i : Interval) : Nat → Int → Decimal
  | 0, e => ⟨(i.nearest? e).getD 0, e⟩
  | fuel + 1, e =>
    match i.nearest? e with
    | some d => if d = 0 then i.search fuel (e - 1) else ⟨d, e⟩
    | none => i.search fuel (e - 1)

/-- Removes the zeros at the end of the digits. -/
def stripZeros : Nat → Decimal → Decimal
  | 0, d => d
  | fuel + 1, d =>
    if d.digits ≠ 0 ∧ d.digits % 10 = 0 then stripZeros fuel ⟨d.digits / 10, d.exponent + 1⟩ else d

/-- The least digits that read back, the nearest of those of that length. -/
def shortest (x : Binary64) : Decimal :=
  if x.isZero then ⟨0, 0⟩
  else
    let i := x.interval
    -- the decimal exponent of the value, or one more
    let top : Int := (((x.mantissa.log2 : Int) + x.exponent) * 30103).fdiv 100000 + 1
    stripZeros 20 (i.search 20 top)

end Binary64

/-- How numbers are laid out: those whose point stands after `leastPoint` to `greatestPoint` digits
are positional, the others have an exponent with its sign. -/
structure Layout where
  leastPoint : Int
  greatestPoint : Int

/-- The layout of numbers in documents. -/
def Layout.document : Layout := ⟨-4, 16⟩

def zeros (n : Nat) : List Char := List.replicate n '0'

def Layout.write (l : Layout) (d : Decimal) : List Char :=
  let ds := Nat.toDigits 10 d.digits
  let point : Int := ds.length + d.exponent
  if d.digits = 0 then ['0', '.', '0']
  else if 0 ≤ d.exponent ∧ point ≤ l.greatestPoint then ds ++ zeros d.exponent.toNat ++ ['.', '0']
  else if 0 < point ∧ point ≤ l.greatestPoint then
    ds.take point.toNat ++ '.' :: ds.drop point.toNat
  else if l.leastPoint ≤ point ∧ point ≤ 0 then
    '0' :: '.' :: zeros (-point).toNat ++ ds
  else
    let e := point - 1
    let mantissa := match ds with
      | [c] => [c]
      | c :: cs => c :: '.' :: cs
      | [] => []
    mantissa ++ 'e' :: (if e < 0 then '-' else '+') :: Nat.toDigits 10 e.natAbs

def Binary64.write (x : Binary64) : List Char :=
  (if x.negative then ['-'] else []) ++ Layout.document.write x.shortest

def Binary64.toText (x : Binary64) : String := String.ofList x.write

example : (Binary64.ofRatio? false 3 10).map Binary64.toText = some "0.3" := by decide +kernel
example : (Binary64.ofRatio? true (10 ^ 21) 1).map Binary64.toText = some "-1e+21" := by
  decide +kernel
example : Binary64.toText ⟨false, 1, -1074⟩ = "5e-324" := by decide +kernel

end TrafficTrace.Number
