import TrafficTrace.Text.CombiningClass
import TrafficTrace.Text.Decomposition

/-! The normal form of a text whose characters have been taken apart: marks in the order of their
classes, and then each character written as one with the marks that it can take in. -/
namespace TrafficTrace.Text

/-- Puts a mark before the first that is not of a lower class. -/
def placeMark (c : Char) : List Char → List Char
  | [] => [c]
  | d :: ds =>
    let later := combiningClass d
    if 0 < later && later < combiningClass c then d :: placeMark c ds else c :: d :: ds

def orderMarks : List Char → List Char
  | [] => []
  | c :: cs => if combiningClass c = 0 then c :: orderMarks cs else placeMark c (orderMarks cs)

/-- A Korean syllable from its first consonant and its vowel, or with its last consonant. -/
def syllable? (a b : Nat) : Option Nat :=
  if 0x1100 ≤ a && a < 0x1113 && 0x1161 ≤ b && b < 0x1176 then
    some (0xAC00 + ((a - 0x1100) * 21 + (b - 0x1161)) * 28)
  else if 0xAC00 ≤ a && a < 0xD7A4 && (a - 0xAC00) % 28 == 0 && 0x11A8 ≤ b && b < 0x11C3 then
    some (a + (b - 0x11A7))
  else none

/-- Two characters as one. -/
def composite? (a b : Char) : Option Char :=
  ((syllable? a.toNat b.toNat).orElse fun _ => compositions[(a.toNat, b.toNat)]?).map Char.ofNat

/-- Composes `first` with what follows it. The characters in `kept`, the last one first, stand between
and have not been taken in. A character is taken in unless one of the same or of a higher class stands
between. -/
def composeAfter (first : Char) (kept : List Char) : List Char → List Char
  | [] => first :: kept.reverse
  | c :: cs =>
    let free := match kept with
      | [] => true
      | k :: _ => combiningClass k < combiningClass c
    match if free then composite? first c else none with
    | some d => composeAfter d kept cs
    | none =>
      if combiningClass c = 0 then first :: kept.reverse ++ composeAfter c [] cs
      else composeAfter first (c :: kept) cs

def composeOrdered : List Char → List Char
  | [] => []
  | c :: cs => if combiningClass c = 0 then composeAfter c [] cs else c :: composeOrdered cs

/-- The normal form. Characters that stand before all marks are in it as they are. -/
def compose (cs : List Char) : List Char :=
  if cs.all (·.toNat < 0x300) then cs else composeOrdered (orderMarks cs)

end TrafficTrace.Text
