/-! The characters of a YAML text with their places. A line ends at a line feed or at one of the two
Unicode separators; the other ways to end a line are read as a line feed. -/
namespace TrafficTrace.Yaml

def lineSeparator : Char := Char.ofNat 0x2028
def paragraphSeparator : Char := Char.ofNat 0x2029

def isBreak (c : Char) : Bool := c = '\n' || c = lineSeparator || c = paragraphSeparator
def isBlank (c : Char) : Bool := c = ' ' || c = '\t'
def isDigit (c : Char) : Bool := '0' ≤ c && c ≤ '9'

/-- The characters of names: letters and digits of ASCII, underscore and hyphen. -/
def isWord (c : Char) : Bool :=
  isDigit c || ('a' ≤ c && c ≤ 'z') || ('A' ≤ c && c ≤ 'Z') || c = '_' || c = '-'

/-- Control characters are not part of a text, tab, line ends and next line apart. -/
def isAllowed (c : Char) : Bool :=
  let n := c.toNat
  n = 9 || n = 10 || n = 13 || (32 ≤ n && n ≤ 0x7E) || n = 0x85 || (0xA0 ≤ n && n ≤ 0xFFFD)
    || 0x10000 ≤ n

/-- Every way to end a line but the two separators as a line feed. -/
def unifyBreaks : List Char → List Char
  | [] => []
  | '\r' :: '\n' :: cs => '\n' :: unifyBreaks cs
  | c :: cs => (if c = '\r' || c.toNat = 0x85 then '\n' else c) :: unifyBreaks cs

/-- A character with its place in the text and in its line. -/
structure Spot where
  char : Char
  index : Nat
  line : Nat
  column : Nat
deriving DecidableEq, Repr

def locate (index line column : Nat) : List Char → List Spot
  | [] => []
  | c :: cs =>
    ⟨c, index, line, column⟩ ::
      if isBreak c then locate (index + 1) (line + 1) 0 cs
      else locate (index + 1) line (column + 1) cs

namespace Spot

/-- Whether a blank, a line end or the end of the text comes next. -/
def atGap : List Spot → Bool
  | [] => true
  | s :: _ => isBlank s.char || isBreak s.char

def startsWith (c : Char) : List Spot → Bool
  | [] => false
  | s :: _ => s.char = c

def atBreak : List Spot → Bool
  | [] => true
  | s :: _ => isBreak s.char

/-- Three times the same character at the start of a line, then a gap. -/
def marks (c : Char) : List Spot → Bool
  | a :: b :: d :: rest =>
    a.column = 0 && a.char = c && b.char = c && d.char = c && atGap rest
  | _ => false

def atDocumentMark (ss : List Spot) : Bool := marks '-' ss || marks '.' ss

def skipBlanks (ss : List Spot) : List Spot := ss.dropWhile (isBlank ·.char)

/-- Drops what is left of the line, without its end. -/
def skipLine (ss : List Spot) : List Spot := ss.dropWhile (!isBreak ·.char)

/-- The characters that pass a test, and the rest. -/
def takeWord (p : Char → Bool) (ss : List Spot) : List Char × List Spot :=
  ((ss.takeWhile (p ·.char)).map (·.char), ss.dropWhile (p ·.char))

end Spot

end TrafficTrace.Yaml
