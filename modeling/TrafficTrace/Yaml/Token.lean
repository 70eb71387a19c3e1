import TrafficTrace.Yaml.Scalar
import TrafficTrace.Yaml.Tag

/-! The tokens of a YAML text. Indentation opens and closes block collections, and a colon can turn
what was read before it into a key, so the tokens before a key are put in late. -/
namespace TrafficTrace.Yaml

inductive Token where
  | version (major minor : Nat)
  | handle (name start : String)
  | documentStart
  | documentEnd
  | textEnd
  | blockSequence
  | blockMapping
  | blockEnd
  | flowSequence
  | flowSequenceEnd
  | flowMapping
  | flowMappingEnd
  | blockEntry
  | flowEntry
  | key
  | value
  | reference (name : String)
  | anchor (name : String)
  | tag (handle suffix : String)
  | scalar (text : String) (style : Style)
deriving DecidableEq, Repr

/-- A token that turns into a key if a colon follows on its line. `required` says that it has to. -/
structure Candidate where
  place : Nat
  required : Bool
  spot : Spot
deriving DecidableEq, Repr

/-- How far a text has been read. -/
structure Layout where
  rest : List Spot
  /-- Newest first. -/
  tokens : List Token
  /-- The columns of the open block collections, innermost first. -/
  columns : List Nat
  candidate : Option Candidate
  /-- The candidates around the open brackets, innermost first. -/
  outer : List (Option Candidate)
  /-- Whether a key may start here. -/
  keyAllowed : Bool
deriving Repr

namespace Layout

def start (ss : List Spot) : Layout := ⟨ss, [], [], none, [], true⟩

def inFlow (l : Layout) : Bool := !l.outer.isEmpty

def column (l : Layout) : Nat :=
  match l.rest with
  | [] => 0
  | s :: _ => s.column

/-- The least column of the lines that belong to the innermost block collection's items. -/
def least (l : Layout) : Nat :=
  match l.columns with
  | [] => 0
  | c :: _ => c + 1

def emit (l : Layout) (t : Token) : Layout := { l with tokens := t :: l.tokens }

/-- Puts tokens, newest first, in front of the token at a place. -/
def insert (l : Layout) (place : Nat) (ts : List Token) : Layout :=
  let after := l.tokens.length - place
  { l with tokens := l.tokens.take after ++ ts ++ l.tokens.drop after }

/-- The candidate is given up, which fails for a required one. -/
def dropCandidate (l : Layout) : Option Layout :=
  match l.candidate with
  | some c => if c.required then none else some { l with candidate := none }
  | none => some l

/-- The token that comes next may turn into a key. -/
def saveCandidate (l : Layout) : Option Layout :=
  match l.keyAllowed, l.rest with
  | true, s :: _ => do
    let required := !l.inFlow && l.columns.head? == some s.column
    let l ← l.dropCandidate
    return { l with candidate := some ⟨l.tokens.length, required, s⟩ }
  | _, _ => some l

/-- A key ends on the line where it starts, and has less than a thousand and some characters. -/
def isStale (here : Spot) (c : Candidate) : Bool :=
  c.spot.line < here.line || c.spot.index + 1024 < here.index

/-- Gives up the candidates that were left behind. -/
def dropStale (l : Layout) : Option Layout :=
  match l.rest with
  | [] => some l
  | here :: _ =>
    let keep (c : Option Candidate) : Option (Option Candidate) :=
      match c with
      | some c => if isStale here c then (if c.required then none else some none) else some (some c)
      | none => some none
    do
      let outer ← l.outer.mapM keep
      let candidate ← keep l.candidate
      return { l with candidate, outer }

/-- Closes the block collections to the right of a column. -/
def closeTo (column : Nat) (l : Layout) : List Nat → Layout
  | c :: cs =>
    if column < c then closeTo column (l.emit .blockEnd) cs else { l with columns := c :: cs }
  | [] => { l with columns := [] }

def unroll (l : Layout) : Layout := if l.inFlow then l else closeTo l.column l l.columns

def closeAll (l : Layout) : Layout :=
  if l.inFlow then l
  else { l with tokens := l.columns.map (fun _ => .blockEnd) ++ l.tokens, columns := [] }

/-- Opens a block collection before the token at a place, if the column lies to the right of the
open ones. -/
def roll (l : Layout) (column place : Nat) (t : Token) : Layout :=
  if l.inFlow || l.columns.head?.any (column ≤ ·) then l
  else { l.insert place [t] with columns := column :: l.columns }

def advance (l : Layout) (count : Nat) : Layout := { l with rest := l.rest.drop count }

/-- Blanks, comments and line ends. A tab does not indent where a key may start. -/
def skipGap (fuel : Nat) (l : Layout) : Layout :=
  match fuel with
  | 0 => l
  | fuel + 1 =>
    let rest := l.rest.dropWhile fun s =>
      s.char = ' ' || ((l.inFlow || !l.keyAllowed) && s.char = '\t')
    let rest := if Spot.startsWith '#' rest then Spot.skipLine rest else rest
    match rest with
    | [] => { l with rest := [] }
    | s :: after =>
      if isBreak s.char then
        skipGap fuel { l with rest := after, keyAllowed := l.keyAllowed || !l.inFlow }
      else { l with rest }

/-- The name of an anchor or of a reference to one. -/
def readName (ss : List Spot) : Option (String × List Spot) :=
  let (word, rest) := Spot.takeWord isWord ss
  let follows := Spot.atGap rest || match rest with
    | [] => true
    | s :: _ => s.char ∈ ['?', ':', ',', ']', '\x7d', '%', '@', '\x60']
  if word.isEmpty || !follows then none else some (String.ofList word, rest)

def readDecimal (ss : List Spot) : Option (Nat × List Spot) :=
  let (digits, rest) := Spot.takeWord isDigit ss
  if digits.isEmpty || digits.length > 9 then none
  else some (digits.foldl (fun n c => n * 10 + (c.toNat - 48)) 0, rest)

/-- A directive after its percent sign: the version of the format, or the meaning of a handle. -/
def readDirective (ss : List Spot) : Option (Token × List Spot) := do
  let (name, rest) := Spot.takeWord isWord ss
  if !Spot.atGap rest then none
  let rest := Spot.skipBlanks rest
  let (token, rest) ←
    if name = ['Y', 'A', 'M', 'L'] then do
      let (major, rest) ← readDecimal rest
      if !Spot.startsWith '.' rest then none
      let (minor, rest) ← readDecimal (rest.drop 1)
      some (Token.version major minor, rest)
    else if name = ['T', 'A', 'G'] then do
      let (handle, rest) ← readHandle rest
      if handle ≠ ['!'] && handle.getLast? ≠ some '!' then none
      if !Spot.atGap rest || Spot.atBreak rest then none
      let (start, rest) ← readTagText true (Spot.skipBlanks rest)
      if !Spot.atGap rest then none
      some (Token.handle (String.ofList handle) start, rest)
    else none
  let rest := Spot.skipBlanks rest
  let rest := if Spot.startsWith '#' rest then Spot.skipLine rest else rest
  if !Spot.atBreak rest then none
  return (token, rest.drop 1)

/-- A document mark or a directive ends every block collection. -/
def restart (l : Layout) : Option Layout := do
  let l ← l.closeAll.dropCandidate
  return { l with keyAllowed := false }

def openFlow (l : Layout) (t : Token) : Option Layout := do
  let l ← l.saveCandidate
  return { (l.emit t).advance 1 with
    candidate := none, outer := l.candidate :: l.outer, keyAllowed := true }

def closeFlow (l : Layout) (t : Token) : Option Layout := do
  let l ← l.dropCandidate
  let l := { (l.emit t).advance 1 with keyAllowed := false }
  match l.outer with
  | [] => return l
  | c :: outer => return { l with candidate := c, outer }

def flowEntry (l : Layout) : Option Layout := do
  let l ← l.dropCandidate
  return { (l.emit .flowEntry).advance 1 with keyAllowed := true }

/-- Opens a block collection at this column, where one may start. -/
def rollHere (l : Layout) (t : Token) : Option Layout :=
  if l.inFlow then some l
  else if l.keyAllowed then some (l.roll l.column l.tokens.length t)
  else none

def blockEntry (l : Layout) : Option Layout := do
  let l ← (← l.rollHere .blockSequence).dropCandidate
  return { (l.emit .blockEntry).advance 1 with keyAllowed := true }

def explicitKey (l : Layout) : Option Layout := do
  let l ← (← l.rollHere .blockMapping).dropCandidate
  return { (l.emit .key).advance 1 with keyAllowed := !l.inFlow }

/-- A colon turns the candidate into a key, or else follows an explicit one. -/
def value (l : Layout) : Option Layout := do
  let l ← match l.candidate with
    | some c =>
      let l := (l.insert c.place [.key]).roll c.spot.column c.place .blockMapping
      some { l with candidate := none, keyAllowed := false }
    | none => do
      let l ← l.rollHere .blockMapping
      some { l with keyAllowed := !l.inFlow }
  return (l.emit .value).advance 1

/-- A token that may be a key, read by `read`. -/
def content (l : Layout) (read : List Spot → Option (Token × List Spot)) : Option Layout := do
  let l ← l.saveCandidate
  let (t, rest) ← read l.rest
  return { l.emit t with rest, keyAllowed := false }

def plain (l : Layout) : Option Layout := do
  let l ← l.saveCandidate
  let (text, rest, broken) ← readPlain l.inFlow l.least Gap.none l.rest
  return { l.emit (.scalar (String.ofList text) .plain) with rest, keyAllowed := broken }

def block (l : Layout) (folded : Bool) : Option Layout := do
  let l ← l.dropCandidate
  let (text, rest) ← readBlock folded l.columns.head? (l.rest.drop 1)
  let style := if folded then .folded else .literal
  return { l.emit (.scalar (String.ofList text) style) with rest, keyAllowed := true }

/-- The punctuation that a plain scalar does not start with. -/
def indicators : List Char :=
  ['-', '?', ':', ',', '[', ']', '\x7b', '\x7d', '#', '&', '*', '!', '|', '>', '\'', '"', '%', '@',
    '\x60']

/-- Reads the next token, with the block ends before it; nothing at a fault. -/
def next (l : Layout) : Option Layout := do
  let l := l.skipGap (l.rest.length + 1)
  let l ← l.dropStale
  let l := l.unroll
  match l.rest with
  | [] =>
    let l ← l.restart
    return l.emit .textEnd
  | s :: rest =>
    let gap := Spot.atGap rest
    let named (t : String → Token) (ss : List Spot) :=
      (readName (ss.drop 1)).map fun (name, rest) => (t name, rest)
    if s.column = 0 && s.char = '%' then
      let l ← l.restart
      let (t, rest) ← readDirective rest
      return { l.emit t with rest }
    else if Spot.marks '-' l.rest then
      return ((← l.restart).emit .documentStart).advance 3
    else if Spot.marks '.' l.rest then
      return ((← l.restart).emit .documentEnd).advance 3
    else match s.char with
      | '[' => l.openFlow .flowSequence
      | '\x7b' => l.openFlow .flowMapping
      | ']' => l.closeFlow .flowSequenceEnd
      | '\x7d' => l.closeFlow .flowMappingEnd
      | ',' => l.flowEntry
      | '*' => l.content (named .reference)
      | '&' => l.content (named .anchor)
      | '!' => l.content fun ss =>
        (readTag l.inFlow ss).map fun ((handle, suffix), rest) => (.tag handle suffix, rest)
      | '\'' => l.content fun ss =>
        (readQuoted false ss.length Gap.none (ss.drop 1)).map fun (text, rest) =>
          (.scalar (String.ofList text) .quoted, rest)
      | '"' => l.content fun ss =>
        (readQuoted true ss.length Gap.none (ss.drop 1)).map fun (text, rest) =>
          (.scalar (String.ofList text) .quoted, rest)
      | c =>
        if c = '-' && gap then l.blockEntry
        else if c = '?' && (l.inFlow || gap) then l.explicitKey
        else if c = ':' && (l.inFlow || gap) then l.value
        else if c = '|' && !l.inFlow then l.block false
        else if c = '>' && !l.inFlow then l.block true
        else if (!isBlank c && c ∉ indicators) || c = '-' || (!l.inFlow && (c = '?' || c = ':')) then
          l.plain
        else none

/-- The tokens that are certain: none from the first candidate on. -/
def settled (l : Layout) : List Token :=
  let places := (l.candidate :: l.outer).filterMap fun c => c.map (·.place)
  let count := places.foldl min l.tokens.length
  l.tokens.reverse.take count

/-- The tokens up to the end of the text or to the first fault. -/
def run (fuel : Nat) (l : Layout) : List Token :=
  match fuel with
  | 0 => l.settled
  | fuel + 1 =>
    match l.next with
    | none => (l.dropStale.getD l).settled
    | some l => if l.tokens.head? == some .textEnd then l.tokens.reverse else run fuel l

end Layout

/-- The tokens of a text; where the text is well formed to its end, the last one is `textEnd`. A byte
order mark in front takes up a column. -/
def tokens (text : List Char) : List Token :=
  let (text, column) := match text with
    | c :: cs => if c.toNat = 0xFEFF then (cs, 1) else (c :: cs, 0)
    | [] => ([], 0)
  let cs := unifyBreaks text
  if cs.all isAllowed then Layout.run (cs.length + 1) (.start (locate column 0 column cs)) else []

example : tokens "a: [b, 'c']".toList = [.blockMapping, .key, .scalar "a" .plain, .value,
    .flowSequence, .scalar "b" .plain, .flowEntry, .scalar "c" .quoted, .flowSequenceEnd, .blockEnd,
    .textEnd] := by decide +kernel

end TrafficTrace.Yaml
