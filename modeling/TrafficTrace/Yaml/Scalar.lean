import TrafficTrace.Text.Hex
import TrafficTrace.Yaml.Spot

/-! The three ways to write a scalar: plain, in quotes, as a block of lines. Each reader gives the
text and what follows it, or nothing where the scalar is not well formed. -/
namespace TrafficTrace.Yaml

/-- How a scalar is written. In a literal block line ends stay; a folded one joins its lines. -/
inductive Style where
  | plain
  | quoted
  | literal
  | folded
deriving DecidableEq, Repr

/-- Blanks and line ends between two pieces of a scalar. -/
structure Gap where
  blanks : List Char
  /-- Whether a line ended; from then on blanks do not count. -/
  broken : Bool
  /-- The first line end, unless it was escaped. -/
  first : Option Char
  more : List Char
deriving DecidableEq, Repr

namespace Gap

def none : Gap := ⟨[], false, .none, []⟩

/-- The gap after a line end that an escape takes away. -/
def escaped : Gap := ⟨[], true, .none, []⟩

def isNone (g : Gap) : Bool := g.blanks.isEmpty && !g.broken

def push (g : Gap) (c : Char) : Gap :=
  if isBlank c then if g.broken then g else ⟨g.blanks ++ [c], false, .none, []⟩
  else if g.broken then ⟨[], true, g.first, g.more ++ [c]⟩
  else ⟨[], true, some c, []⟩

/-- What a gap stands for: one line end is a space, and of several the first one is dropped. -/
def text (g : Gap) : List Char :=
  if g.broken then
    match g.first with
    | .none => g.more
    | some c => if c = '\n' then (if g.more.isEmpty then [' '] else g.more) else c :: g.more
  else g.blanks

end Gap

/-- Whether a plain scalar ends before these characters: at a colon with a gap after it, and inside
brackets at their punctuation. -/
def endsPlain (flow : Bool) (s : Spot) (rest : List Spot) : Bool :=
  (s.char = ':' && Spot.atGap rest)
    || (flow && (s.char = ',' || s.char = '[' || s.char = ']' || s.char = '\x7b' || s.char = '\x7d'))

/-- Inside brackets a colon that is part of a plain scalar does not touch their punctuation. -/
def misplacedColon (flow : Bool) (s : Spot) (rest : List Spot) : Bool :=
  flow && s.char = ':' && match rest with
    | [] => false
    | r :: _ => r.char = ',' || r.char = '?' || r.char = '[' || r.char = ']' || r.char = '\x7b'
        || r.char = '\x7d'

/-- A plain scalar whose further lines start at the column `least` or after it. Gives also what
follows the gap after the scalar, and whether a line ended in that gap. -/
def readPlain (flow : Bool) (least : Nat) : Gap → List Spot →
    Option (List Char × List Spot × Bool)
  | g, [] => some ([], [], g.broken)
  | g, s :: rest =>
    if isBlank s.char || isBreak s.char then
      if s.char = '\t' && g.broken && s.column < least then none
      else readPlain flow least (g.push s.char) rest
    else if (!g.isNone && ((!flow && s.column < least) || s.char = '#'))
        || Spot.atDocumentMark (s :: rest) then some ([], s :: rest, g.broken)
    else if misplacedColon flow s rest then none
    else if endsPlain flow s rest then some ([], s :: rest, g.broken)
    else do
      let (text, rest, broken) ← readPlain flow least Gap.none rest
      return (g.text ++ s.char :: text, rest, broken)

/-- What a character after a backslash stands for. -/
def escape? : Char → Option Char
  | '0' => some (Char.ofNat 0)
  | 'a' => some (Char.ofNat 7)
  | 'b' => some (Char.ofNat 8)
  | 't' | '\t' => some '\t'
  | 'n' => some '\n'
  | 'v' => some (Char.ofNat 11)
  | 'f' => some (Char.ofNat 12)
  | 'r' => some '\r'
  | 'e' => some (Char.ofNat 27)
  | ' ' => some ' '
  | '"' => some '"'
  | '/' => some '/'
  | '\\' => some '\\'
  | 'N' => some (Char.ofNat 0x85)
  | '_' => some (Char.ofNat 0xA0)
  | 'L' => some lineSeparator
  | 'P' => some paragraphSeparator
  | _ => none

/-- How many hexadecimal digits a character after a backslash asks for. -/
def codeLength? : Char → Option Nat
  | 'x' => some 2
  | 'u' => some 4
  | 'U' => some 8
  | _ => none

/-- The character of a code in hexadecimal digits, unless it is no character. -/
def readCode (count : Nat) (ss : List Spot) : Option (Char × List Spot) := do
  let digits ← (ss.take count).mapM (Text.hexValue? ·.char)
  let n := digits.foldl (fun n d => n * 16 + d) 0
  if digits.length = count ∧ n.isValidChar then some (Char.ofNat n, ss.drop count) else none

/-- A scalar in quotes, after the opening one. The fuel bounds the characters. -/
def readQuoted (double : Bool) (fuel : Nat) (g : Gap) (ss : List Spot) :
    Option (List Char × List Spot) :=
  match fuel, ss with
  | 0, _ | _, [] => none
  | fuel + 1, s :: rest =>
    let onward (cs : List Char) (next : Gap) (rest : List Spot) := do
      let (text, rest) ← readQuoted double fuel next rest
      return (g.text ++ cs ++ text, rest)
    if isBlank s.char || isBreak s.char then readQuoted double fuel (g.push s.char) rest
    else if Spot.atDocumentMark (s :: rest) then none
    else if s.char = (if double then '"' else '\'') then
      if !double && Spot.startsWith '\'' rest then onward ['\''] Gap.none (rest.drop 1)
      else some (g.text, rest)
    else if double && s.char = '\\' then
      match rest with
      | [] => none
      | e :: rest =>
        if isBreak e.char then onward [] Gap.escaped rest
        else match codeLength? e.char with
          | some count => do
            let (c, rest) ← readCode count rest
            onward [c] Gap.none rest
          | none => do onward [← escape? e.char] Gap.none rest
    else onward [s.char] Gap.none rest

/-- What becomes of the line ends at the end of a block. -/
inductive Chomp where
  | strip
  | clip
  | keep
deriving DecidableEq, Repr

/-- The line ends before the next line of a block that is not empty, and the widest indentation met.
A column of zero stands for one that is not known yet. -/
def readBreaks (column widest : Nat) : List Spot → Option (List Char × Nat × List Spot)
  | [] => some ([], widest, [])
  | s :: rest =>
    let inside := column = 0 || s.column < column
    if s.char = ' ' && inside then readBreaks column widest rest
    else if s.char = '\t' && inside then none
    else
      let widest := max widest s.column
      if isBreak s.char then do
        let (breaks, widest, rest) ← readBreaks column widest rest
        return (s.char :: breaks, widest, rest)
      else some ([], widest, s :: rest)

/-- The lines of a block, with what its last line end and the empty lines after it are. `lead` is the
end of the line before, `breaks` are the empty lines since. -/
def readLines (folded : Bool) (column fuel : Nat) (lead breaks : List Char) (indented : Bool)
    (ss : List Spot) : Option (List Char × List Char × List Char × List Spot) :=
  match fuel, ss with
  | 0, _ => none
  | _, [] => some ([], lead, breaks, [])
  | fuel + 1, s :: rest =>
    if s.column ≠ column then some ([], lead, breaks, s :: rest)
    else do
      let blank := isBlank s.char
      let joint :=
        if folded && lead == ['\n'] && !indented && !blank then
          (if breaks.isEmpty then [' '] else []) ++ breaks
        else lead ++ breaks
      let (line, rest) := Spot.takeWord (!isBreak ·) (s :: rest)
      let (last, rest) := match rest with
        | [] => ([], [])
        | b :: rest => ([b.char], rest)
      let (empty, _, rest) ← readBreaks column 0 rest
      let (text, tail) ← readLines folded column fuel last empty blank rest
      return (joint ++ line ++ text, tail)

/-- How to chomp and by how much to indent, in either order. -/
def readBlockHeader (ss : List Spot) : Option (Chomp × Option Nat × List Spot) :=
  let chomp (ss : List Spot) : Chomp × List Spot :=
    if Spot.startsWith '+' ss then (.keep, ss.drop 1)
    else if Spot.startsWith '-' ss then (.strip, ss.drop 1)
    else (.clip, ss)
  let digit (ss : List Spot) : Option (Option Nat × List Spot) :=
    match ss with
    | [] => some (none, [])
    | s :: rest =>
      if s.char = '0' then none
      else if isDigit s.char then some (some (s.char.toNat - 48), rest)
      else some (none, s :: rest)
  do
    let (c, ss) := chomp ss
    let (d, ss) ← digit ss
    if c ≠ .clip || d.isNone then return (c, d, ss)
    let (c, ss) := chomp ss
    return (c, d, ss)

/-- A block after its bar or angle bracket, inside a collection at the column `parent`. -/
def readBlock (folded : Bool) (parent : Option Nat) (ss : List Spot) :
    Option (List Char × List Spot) := do
  let (chomp, step, ss) ← readBlockHeader ss
  let ss := Spot.skipBlanks ss
  let ss := if Spot.startsWith '#' ss then Spot.skipLine ss else ss
  if !Spot.atBreak ss then none
  let column := match step with
    | none => 0
    | some n => parent.getD 0 + n
  let least := match parent with
    | none => 0
    | some p => p + 1
  let (breaks, widest, ss) ← readBreaks column 0 (ss.drop 1)
  let column := if column = 0 then max (max widest least) 1 else column
  let (text, lead, breaks, rest) ← readLines folded column (ss.length + 1) [] breaks false ss
  let tail := match chomp with
    | .strip => []
    | .clip => lead
    | .keep => lead ++ breaks
  return (text ++ tail, rest)

example : (readQuoted true 99 Gap.none (locate 0 0 1 "a\\u00e9  \n\n b\" c".toList)).map
    (fun r => String.ofList r.1) = some "aé\nb" := by decide +kernel

example : (readBlock true (some 0) (locate 0 0 1 "-\n  a\n  b\n\n   c\n".toList)).map
    (fun r => String.ofList r.1) = some "a b\n\n c" := by decide +kernel

end TrafficTrace.Yaml
