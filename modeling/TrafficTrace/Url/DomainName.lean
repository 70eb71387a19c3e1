import TrafficTrace.Text.Blank
import TrafficTrace.Text.Composition
import TrafficTrace.Text.Direction
import TrafficTrace.Text.Fold
import TrafficTrace.Text.Joining
import TrafficTrace.Text.Lowercase
import TrafficTrace.Text.Utf8
import TrafficTrace.Url.Punycode

/-! Names of hosts in any script. Characters that mean the same in a name are made one; a label that
still has others than those of ASCII is written in Punycode. -/
namespace TrafficTrace.Url.DomainName

open Text (CharSet)

/-- Characters of ASCII that a name cannot hold. -/
def forbidden (c : Char) : Bool :=
  c.toNat ≤ 32 || c.toNat = 127 || c ∈ "#/:<>?@[\\]^|%".toList

/-- Characters of other categories that a name cannot hold: controls of layout, signs that contain a
dot, and such. -/
def excluded : CharSet := CharSet.ofLines [
  "80-9F 600-605 61C 6DD 70F 890-891 8E2 1680 200E-200F 2024-2026 2028-202E 2066-2069 2488-249B",
  "2FF0-2FFF 31EF 33C2 33C7 33D8 FE12 FE19 FE30 FE52 FFF9-FFFD 110BD 110CD 13430-1343F 1F100",
  "E0001 E0020-E007F"]

/-- Characters that count for nothing in a name. -/
def ignored : CharSet := CharSet.ofLines [
  "AD 34F 115F-1160 17B4-17B5 180B-180F 200B 2060-2064 206A-206F 3164 FE00-FE0F FEFF FFA0",
  "1BCA0-1BCA3 1D173-1D17A E0100-E01EF"]

def isExcluded (c : Char) : Bool :=
  excluded.mem c || ["Cn", "Co"].any (Text.hasCategory · c)

/-- A final sigma and the two joiners are kept, although they are compatible with other characters. -/
def isKept (c : Char) : Bool := c = 'ς' || c = Text.nonJoiner || c = Text.joiner

/-- Small letters, without the differences that case folding levels. -/
def foldCase (c : Char) : List Char :=
  (Text.lowerChar c).map fun d => Char.ofNat (Text.foldNat d.toNat)

/-- What a character means in a name, if a name can hold it. -/
def meaning? (c : Char) : Option (List Char) :=
  if c.toNat < 0x80 then some (Text.lowerChar c)
  else if isExcluded c then none
  else if ignored.mem c then some []
  else if isKept c then some [c]
  else if c.toNat = 0x3002 || c.toNat = 0xFF61 then some ['.']
  else
    let folded (cs : List Char) := (cs.flatMap Text.decompose).flatMap foldCase
    some ((folded (folded [c])).flatMap fun d => (Text.decompose d).filter fun e => !ignored.mem e)

/-- A name as it is compared. -/
def meanings? (cs : List Char) : Option (List Char) :=
  (cs.mapM meaning?).map fun parts => Text.compose parts.flatten

/-- A joiner has to follow a sign that silences a vowel; a non-joiner may stand between two letters
that would join. `before` is what precedes, nearest character first. -/
def joinersFit (before : List Char) : List Char → Bool
  | [] => true
  | c :: cs =>
    let silenced := (before.head?.map Text.isVirama).getD false
    let fits :=
      if c = Text.joiner then silenced
      else if c = Text.nonJoiner then
        silenced || (Text.endsJoining before && Text.beginsJoining cs)
      else true
    fits && joinersFit (c :: before) cs

/-- Whether a label in any script is well formed: it does not begin with a mark. -/
def isWellFormed (label : List Char) : Bool :=
  !(label.head?.map fun c => 0x300 ≤ c.toNat && Text.hasCategory "M" c).getD false &&
    joinersFit [] label

/-- A label in its own script and in ASCII. -/
structure Label where
  unicode : List Char
  ascii : List Char

def punycodeMark : List Char := ['x', 'n', '-', '-']

def isAscii (cs : List Char) : Bool := cs.all (·.toNat < 0x80)

/-- The most characters of a label that is not of ASCII. -/
def longest : Nat := 1000

/-- The most characters of a label in Punycode, after the mark. -/
def longestEncoded : Nat := 2000

/-- Reads a label. One in Punycode has to stand for a label that is not of ASCII and that means
itself. -/
def readLabel? (label : List Char) : Option Label :=
  if label.take 4 == punycodeMark then do
    if !isAscii label || longestEncoded < label.length - 4 then none
    let inner ← Punycode.decode? (label.drop 4)
    if longest < inner.length then none
    if !isAscii inner && meanings? inner == some inner && isWellFormed inner then some ⟨inner, label⟩
    else none
  else if isAscii label then some ⟨label, label⟩
  else if label.length ≤ longest && isWellFormed label then
    some ⟨label, punycodeMark ++ Punycode.encode label⟩
  else none

/-! ### Labels from right to left -/

def isRightToLeft (c : Char) : Bool :=
  0x590 ≤ c.toNat && (Text.direction c == .rightToLeft || Text.direction c == .arabicNumber)

/-- The directions of a label without the marks at its end. -/
def directionsOf (label : List Char) : List Text.Direction :=
  ((label.map Text.direction).reverse.dropWhile (· == .mark)).reverse

/-- Whether a label can be told from its neighbours in a name with characters from right to left: it
begins with a letter, goes in one direction, ends in a letter or a number of it, and has numbers of one
kind. -/
def isDirected (label : List Char) : Bool :=
  match directionsOf label with
  | [] => true
  | first :: rest =>
    let last := rest.getLast?.getD first
    match first with
    | .leftToRight =>
      (last == .leftToRight || last == .europeanNumber) &&
        rest.all fun d => d != .rightToLeft && d != .arabicNumber
    | .rightToLeft =>
      last != .leftToRight && last != .neutral && last != .mark && rest.all (· != .leftToRight) &&
        !(rest.contains .europeanNumber && rest.contains .arabicNumber)
    | _ => false

/-- The name in characters of ASCII. -/
def toAscii? (cs : List Char) : Option (List Char) := do
  let name ← meanings? cs
  if name.any fun c => c.toNat < 0x80 && forbidden c then none
  let labels ← (Text.pieces (· = '.') name).mapM readLabel?
  let mixed := labels.any fun l => l.unicode.any isRightToLeft
  if mixed && !labels.all fun l => isDirected l.unicode then none
  return ['.'].intercalate (labels.map (·.ascii))

end TrafficTrace.Url.DomainName
