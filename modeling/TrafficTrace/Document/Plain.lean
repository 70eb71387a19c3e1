import TrafficTrace.Text.Hex

/-! Scalars written without quotes, whose meaning depends on what is asked for: null, a truth value,
an unsigned integer. Asked for a text, every scalar is its own text. -/
namespace TrafficTrace.Document

def isNullWord (s : String) : Bool := s == "" || s == "~" || s == "null" || s == "Null" || s == "NULL"

def boolOfWord? (s : String) : Option Bool :=
  if s == "true" || s == "True" || s == "TRUE" then some true
  else if s == "false" || s == "False" || s == "FALSE" then some false
  else none

/-- Digits of a base up to sixteen, at least one. -/
def digitsToNat? (base : Nat) (cs : List Char) : Option Nat :=
  if cs.isEmpty then none
  else cs.foldl (fun acc c => do
    let n ← acc
    let d ← Text.hexValue? c
    if d < base then some (n * base + d) else none) (some 0)

/-- An unsigned integer: a plus sign is allowed, `0x`, `0o` and `0b` name a base, and a decimal
number does not start with a superfluous zero. -/
def natOfWord? (s : String) : Option Nat :=
  let cs := match s.toList with
    | '+' :: r => r
    | r => r
  match cs with
  | '0' :: 'x' :: r => digitsToNat? 16 r
  | '0' :: 'o' :: r => digitsToNat? 8 r
  | '0' :: 'b' :: r => digitsToNat? 2 r
  | '0' :: _ :: _ => none
  | r => digitsToNat? 10 r

example : natOfWord? "+0x1F" = some 31 ∧ natOfWord? "010" = none ∧ natOfWord? "1_0" = none := by
  decide +kernel

end TrafficTrace.Document
