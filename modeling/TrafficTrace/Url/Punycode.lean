/-! Punycode: a label of any characters as letters, digits and hyphens. The characters of ASCII come
first; the others follow as their distances, in digits whose weights adapt to the distances so far. -/
namespace TrafficTrace.Url.Punycode

def digitChar (d : Nat) : Char := if d < 26 then Char.ofNat (97 + d) else Char.ofNat (22 + d)

def digitValue? (c : Char) : Option Nat :=
  if 'a' ≤ c && c ≤ 'z' then some (c.toNat - 97)
  else if 'A' ≤ c && c ≤ 'Z' then some (c.toNat - 65)
  else if '0' ≤ c && c ≤ '9' then some (c.toNat - 22)
  else none

/-- From which value on a digit at the place `k` is followed by another one. -/
def threshold (k bias : Nat) : Nat :=
  if k ≤ bias then 1 else if bias + 26 ≤ k then 26 else k - bias

def scale (fuel delta k : Nat) : Nat × Nat :=
  match fuel with
  | 0 => (delta, k)
  | fuel + 1 => if 455 < delta then scale fuel (delta / 35) (k + 36) else (delta, k)

/-- The bias after a distance that brought the label to `count` characters. -/
def adapt (delta count : Nat) (first : Bool) : Nat :=
  let d := if first then delta / 700 else delta / 2
  let (d, k) := scale 64 (d + d / count) 0
  k + 36 * d / (d + 38)

/-- A distance in digits of growing places. -/
def writeNumber (fuel q k bias : Nat) : List Char :=
  match fuel with
  | 0 => []
  | fuel + 1 =>
    let t := threshold k bias
    if q < t then [digitChar q]
    else digitChar (t + (q - t) % (36 - t)) :: writeNumber fuel ((q - t) / (36 - t)) (k + 36) bias

structure Coder where
  delta : Nat
  bias : Nat
  handled : Nat
  out : List Char

/-- Passes the label once for the code point `n`. -/
def writeAll (basic n : Nat) (s : Coder) (label : List Char) : Coder :=
  label.foldl (fun s c =>
    if c.toNat < n then { s with delta := s.delta + 1 }
    else if c.toNat = n then
      { delta := 0
        bias := adapt s.delta (s.handled + 1) (s.handled = basic)
        handled := s.handled + 1
        out := s.out ++ writeNumber 64 s.delta 36 s.bias }
    else s) s

/-- Goes through the code points of the label from `n` on, in ascending order. -/
def encodeFrom (basic n : Nat) (s : Coder) (label : List Char) : List Nat → List Char
  | [] => s.out
  | m :: ms =>
    let s := writeAll basic m { s with delta := s.delta + (m - n) * (s.handled + 1) } label
    encodeFrom basic (m + 1) { s with delta := s.delta + 1 } label ms

/-- Puts a number into an ascending list unless it is there. -/
def enter (n : Nat) : List Nat → List Nat
  | [] => [n]
  | m :: ms => if n < m then n :: m :: ms else if n = m then m :: ms else m :: enter n ms

def encode (label : List Char) : List Char :=
  let basic := label.filter (·.toNat < 128)
  let others := ((label.filter (128 ≤ ·.toNat)).map (·.toNat)).foldr enter []
  let start := if basic.isEmpty then [] else basic ++ ['-']
  encodeFrom basic.length 128 ⟨0, 72, basic.length, start⟩ label others

/-- A distance from its digits, and what follows them. -/
def readNumber (k bias weight sum : Nat) : List Char → Option (Nat × List Char)
  | [] => none
  | c :: rest => do
    let d ← digitValue? c
    let t := threshold k bias
    let sum := sum + d * weight
    if d < t then return (sum, rest) else readNumber (k + 36) bias (weight * (36 - t)) sum rest

def decodeFrom (fuel n i bias : Nat) (out cs : List Char) : Option (List Char) :=
  match fuel, cs with
  | _, [] => some out
  | 0, _ => none
  | fuel + 1, cs => do
    let (step, rest) ← readNumber 36 bias 1 0 cs
    let count := out.length + 1
    let next := i + step
    let n := n + next / count
    if n.isValidChar ∧ n < 0x110000 then
      let place := next % count
      decodeFrom fuel n (place + 1) (adapt step count (i = 0))
        (out.take place ++ Char.ofNat n :: out.drop place) rest
    else none

/-- The label, unless the text is no encoding of one. -/
def decode? (cs : List Char) : Option (List Char) :=
  let tail := (cs.reverse.takeWhile (· ≠ '-')).reverse
  let basic := cs.take (cs.length - tail.length - 1)
  decodeFrom (cs.length + 1) 128 0 72 (if tail.length = cs.length then [] else basic) tail

example : String.ofList (encode "bücher".toList) = "bcher-kva" ∧
    (decode? "bcher-kva".toList).map String.ofList = some "bücher" ∧
    String.ofList (encode "日本語".toList) = "wgv71a119e" := by decide +kernel

end TrafficTrace.Url.Punycode
