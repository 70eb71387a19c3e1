import TrafficTrace.Text.CharSet
import TrafficTrace.Text.Utf8

/-! Ranges of characters as sequences of ranges of bytes: the characters from `low` to `high` are
those whose bytes lie in the ranges of one of the sequences, place by place. -/
namespace TrafficTrace.Pattern

open Text

/-- Bytes from `low` to `high`. -/
structure ByteRange where
  low : Nat
  high : Nat
deriving DecidableEq, Repr

abbrev ByteRanges := List ByteRange

namespace ByteRanges

/-- The bytes that may follow a first byte. -/
def anyLater : ByteRange := ⟨0x80, 0xBF⟩

/-- Sequences for numbers from `low` to `high` written in `later` digits of six bits after a leading
part; `lead` is added to the leading part to make it a byte. -/
def between (lead : Nat) : (later : Nat) → (low high : Nat) → List ByteRanges
  | 0, low, high => if low ≤ high then [[⟨lead + low, lead + high⟩]] else []
  | later + 1, low, high =>
    -- the last digit parts the range into an incomplete start, whole blocks and an incomplete end
    let a := low / 64
    let b := high / 64
    let one (block first last : Nat) : List ByteRanges :=
      (between lead later block block).map (· ++ [⟨0x80 + first, 0x80 + last⟩])
    if a = b then one a (low % 64) (high % 64)
    else
      let start := if low % 64 = 0 then [] else one a (low % 64) 63
      let stop := if high % 64 = 63 then [] else one b 0 (high % 64)
      let first := if low % 64 = 0 then a else a + 1
      let beyond := if high % 64 = 63 then b + 1 else b
      let whole :=
        if first < beyond then (between lead later first (beyond - 1)).map (· ++ [anyLater])
        else []
      start ++ whole ++ stop

/-- Code points by the number of their bytes: where they begin and end, the mark of the first byte
and how many bytes follow it. There are no characters from `D800` to `DFFF`. -/
def lengthClasses : List (Nat × Nat × Nat × Nat) := [
  (0, 0x7F, 0, 0), (0x80, 0x7FF, 0xC0, 1), (0x800, 0xD7FF, 0xE0, 2), (0xE000, 0xFFFF, 0xE0, 2),
  (0x10000, 0x10FFFF, 0xF0, 3)]

def ofRange (r : Range) : List ByteRanges :=
  lengthClasses.flatMap fun (first, last, lead, later) =>
    let low := max first r.1
    let high := min last r.2
    if low ≤ high then between lead later low high else []

/-- The sequences of all members of a set, in ascending order. -/
def ofCharSet (s : CharSet) : List ByteRanges := s.ranges.flatMap ofRange

end ByteRanges

end TrafficTrace.Pattern
