import TrafficTrace.Pattern.Property

/-! Classes of characters that patterns write as one letter or by a name in brackets and colons. -/
namespace TrafficTrace.Pattern

open Text

/-- Letters, marks, decimal digits, connecting punctuation and joiners. -/
def wordChars : CharSet :=
  CharSet.unions [wordLetters, ofCategory "M", ofCategory "Nd", ofCategory "Pc",
    CharSet.ofLines ["200C-200D"]]

def digits : CharSet := ofCategory "Nd"

def blanks : CharSet := CharSet.ofLines ["9-D 20 85 A0 1680 2000-200A 2028-2029 202F 205F 3000"]

def asciiWordChars : CharSet := ⟨[(0x30, 0x39), (0x41, 0x5A), (0x5F, 0x5F), (0x61, 0x7A)]⟩
def asciiDigits : CharSet := ⟨[(0x30, 0x39)]⟩
def asciiBlanks : CharSet := ⟨[(9, 13), (0x20, 0x20)]⟩

def isAsciiWord (c : Char) : Bool := c.isAlphanum || c = '_'

/-- Whether a character belongs to words. -/
def isWord (c : Char) : Bool := if c.toNat < 0x80 then isAsciiWord c else wordChars.mem c

/-- With each ASCII letter its other case. -/
def asciiCaseless (s : CharSet) : CharSet :=
  let small := s.inter ⟨[(0x61, 0x7A)]⟩
  let capital := s.inter ⟨[(0x41, 0x5A)]⟩
  CharSet.ofRanges (s.ranges ++ small.ranges.map (fun r => (r.1 - 32, r.2 - 32)) ++
    capital.ranges.map fun r => (r.1 + 32, r.2 + 32))

/-- The classes with a name in brackets and colons. -/
def asciiClass? : String → Option CharSet
  | "alnum" => some ⟨[(0x30, 0x39), (0x41, 0x5A), (0x61, 0x7A)]⟩
  | "alpha" => some ⟨[(0x41, 0x5A), (0x61, 0x7A)]⟩
  | "ascii" => some ⟨[(0, 0x7F)]⟩
  | "blank" => some ⟨[(9, 9), (0x20, 0x20)]⟩
  | "cntrl" => some ⟨[(0, 0x1F), (0x7F, 0x7F)]⟩
  | "digit" => some asciiDigits
  | "graph" => some ⟨[(0x21, 0x7E)]⟩
  | "lower" => some ⟨[(0x61, 0x7A)]⟩
  | "print" => some ⟨[(0x20, 0x7E)]⟩
  | "punct" => some ⟨[(0x21, 0x2F), (0x3A, 0x40), (0x5B, 0x60), (0x7B, 0x7E)]⟩
  | "space" => some asciiBlanks
  | "upper" => some ⟨[(0x41, 0x5A)]⟩
  | "word" => some asciiWordChars
  | "xdigit" => some ⟨[(0x30, 0x39), (0x41, 0x46), (0x61, 0x66)]⟩
  | _ => none

example : (asciiCaseless ⟨[(0x5F, 0x63)]⟩).mem 'B' = true := by decide +kernel

end TrafficTrace.Pattern
