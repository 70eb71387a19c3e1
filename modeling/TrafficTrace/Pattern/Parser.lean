import TrafficTrace.Pattern.Bracket
import TrafficTrace.Pattern.Matching
import TrafficTrace.Pattern.Size

/-! Reading patterns. Groups, alternatives, counted repetitions, classes with set operations, flags
for case, lines, blanks and Unicode, and conditions on positions; no references back to groups and
no lookaround. -/
namespace TrafficTrace.Pattern

open Text (CharSet)

/-- A part of a sequence: an expression and its nesting, or the place where flags were set. -/
structure Item where
  expr : Option Expr
  depth : Nat

/-- The parts, the last one first, as one expression. -/
def sequence (items : List Item) : Expr × Nat :=
  let deepest := (items.map (·.depth)).foldl max 0
  (.concat (items.reverse.filterMap (·.expr)), if items.length ≤ 1 then deepest else deepest + 1)

/-- The alternatives, the last one first. -/
def alternatives (branches : List (Expr × Nat)) : Expr × Nat :=
  match branches with
  | [b] => b
  | bs => (.anyOf (bs.reverse.map (·.1)), (bs.map (·.2)).foldl max 0 + 1)

/-- Letters of flags up to a colon or a closing parenthesis, with the change they make. -/
def parseFlags (seen : List Char) (on any : Bool) (fl : Flags) :
    List Char → Except Fault (Parsed (Flags × Bool))
  | [] => .error .badFlags
  | c :: cs =>
    if c = ':' ∨ c = ')' then
      if seen.head? = some '-' then .error .badFlags else .ok ((fl, any), c :: cs)
    else if c ∈ seen then .error .badFlags
    else
      let next (fl : Flags) := parseFlags (c :: seen) on true fl cs
      match c with
      | '-' => parseFlags (c :: seen) false true fl cs
      | 'i' => next { fl with caseless := on }
      | 'm' => next { fl with multiLine := on }
      | 's' => next { fl with dotAll := on }
      | 'R' => next { fl with crlf := on }
      | 'x' => next { fl with verbose := on }
      | 'u' => next { fl with unicode := on }
      | 'U' => next { fl with few := on }
      | _ => .error .badFlags

/-- Characters of group names. -/
def isNameChar (first : Bool) (c : Char) : Bool :=
  c = '_' || Text.alphabetic.mem c ||
    (!first && (c = '.' || c = '[' || c = ']' || Text.hasCategory "N" c))

/-- The groups so far that are numbered, and the names of those that have one. -/
structure Groups where
  count : Nat
  names : List String

/-- A group's name up to the closing angle bracket. -/
def groupName (groups : Groups) (cs : List Char) : Except Fault (Parsed Groups) :=
  let name := cs.takeWhile (· ≠ '>')
  match cs.drop name.length, name with
  | '>' :: rest, c :: more =>
    let text := String.ofList name
    if isNameChar true c && more.all (isNameChar false) && !groups.names.contains text then
      .ok (⟨groups.count + 1, text :: groups.names⟩, rest)
    else .error .badGroupName
  | _, _ => .error .badGroupName

/-- What an opening parenthesis begins: a group, with its number if it has one, or new flags. -/
inductive Opening where
  | group (fl : Flags) (index : Option Nat) (groups : Groups)
  | flags (fl : Flags)

def isLookaround (cs : List Char) : Bool :=
  [['?', '='], ['?', '!'], ['?', '<', '='], ['?', '<', '!']].any (·.isPrefixOf cs)

def opening (fl : Flags) (groups : Groups) (cs : List Char) : Except Fault (Parsed Opening) := do
  let cs := skip fl cs
  let index := groups.count + 1
  if isLookaround cs then .error .lookaround
  match cs with
  | '?' :: 'P' :: '<' :: r | '?' :: '<' :: r =>
    let (groups, rest) ← groupName groups r
    return (.group fl index groups, rest)
  | '?' :: r =>
    let ((inner, any), rest) ← parseFlags [] true false fl r
    match rest with
    | ':' :: rest => return (.group inner none groups, rest)
    | _ :: rest => if any then return (.flags inner, rest) else .error .missingRepeated
    | [] => .error .unclosedGroup
  | r => return (.group fl index ⟨index, groups.names⟩, r)

/-- A number of 32 bits with blanks around it. -/
def parseCount (fl : Flags) (cs : List Char) : Except Fault (Parsed (Option Nat)) :=
  let cs := cs.dropWhile Text.isBlank
  let rec go (fuel : Nat) (acc : Option Nat) (cs : List Char) : Option Nat × List Char :=
    match fuel, cs with
    | fuel + 1, c :: r =>
      if '0' ≤ c ∧ c ≤ '9' then go fuel (some (acc.getD 0 * 10 + (c.toNat - 48))) (skip fl r)
      else (acc, c :: r)
    | _, cs => (acc, cs)
  let (n, rest) := go cs.length none cs
  if (n.getD 0) < UInt32.size then .ok (n, rest.dropWhile Text.isBlank) else .error .badRepetition

/-- The bounds after an opening brace. -/
def parseBounds (fl : Flags) (cs : List Char) : Except Fault (Parsed (Nat × Option Nat)) := do
  let (low, rest) ← parseCount fl (skip fl cs)
  let ((least, most), rest) ← match rest with
    | ',' :: r =>
      match skip fl r with
      | '\x7d' :: r => do pure ((← orFault .badRepetition low, none), '\x7d' :: r)
      | r => do
        let least ← orFault .badRepetition low
        let (high, rest) ← parseCount fl r
        pure ((least, some (← orFault .badRepetition high)), rest)
    | r => do
      let n ← orFault .badRepetition low
      pure ((n, some n), r)
  match rest with
  | '\x7d' :: r =>
    if (most.getD least) < least then .error .badRepetition else return ((least, most), skip fl r)
  | _ => .error .badRepetition

/-- Repeats the last part. -/
def repeatLast (least : Nat) (most : Option Nat) (few : Bool) :
    List Item → Except Fault (List Item)
  | ⟨some e, depth⟩ :: items => .ok (⟨some (e.times least most few), depth + 1⟩ :: items)
  | _ => .error .missingRepeated

/-- Whether a repetition prefers few: a mark after it turns that around. -/
def preference (fl : Flags) : List Char → Parsed Bool
  | '?' :: r => (!fl.few, r)
  | r => (fl.few, r)

def dot (fl : Flags) : Except Fault CharSet :=
  if !fl.unicode then .error .notUnicode
  else if fl.dotAll then .ok CharSet.all
  else if fl.crlf then .ok (CharSet.complement ⟨[(10, 10), (13, 13)]⟩)
  else .ok (CharSet.single '\n').complement

def item (e : Expr) : Item := ⟨some e, 0⟩

/-- A part that is not a group, a class or a repetition. -/
def primitive (fl : Flags) (c : Char) (cs : List Char) : Except Fault (Parsed Item) :=
  match c with
  | '\\' => do
    let (a, rest) ← escape fl cs
    match a with
    | .char c => return (item (foldedChar fl c), rest)
    | .set s => return (item (.ofSet s !fl.unicode), rest)
    | .look l => return (item (.look l), rest)
  | '.' => do return (item (.ofSet (← dot fl) false), cs)
  | '^' => .ok (item (.look (if fl.multiLine then .lineStart fl.crlf else .textStart)), cs)
  | '$' => .ok (item (.look (if fl.multiLine then .lineEnd fl.crlf else .textEnd)), cs)
  | c => .ok (item (foldedChar fl c), cs)

/-- The alternatives up to a closing parenthesis or the end. -/
def parseBody : (fuel : Nat) → Flags → Groups → (items : List Item) →
    (branches : List (Expr × Nat)) → List Char → Except Fault (Parsed ((Expr × Nat) × Groups))
  | 0, _, _, _, _, _ => .error .tooDeep
  | fuel + 1, fl, groups, items, branches, cs =>
    let continue_ := fun items rest => parseBody fuel fl groups items branches rest
    let repeated (least : Nat) (most : Option Nat) (rest : List Char) := do
      let (few, rest) := preference fl rest
      continue_ (← repeatLast least most few items) rest
    match skip fl cs with
    | [] => .ok ((alternatives (sequence items :: branches), groups), [])
    | ')' :: r => .ok ((alternatives (sequence items :: branches), groups), ')' :: r)
    | '|' :: r => parseBody fuel fl groups [] (sequence items :: branches) r
    | '(' :: r => do
      match ← opening fl groups r with
      | (.flags inner, rest) => parseBody fuel inner groups (⟨none, 0⟩ :: items) branches rest
      | (.group inner index groups, rest) =>
        let (((e, depth), groups), rest) ← parseBody fuel inner groups [] [] rest
        let e := match index with
          | some i => e.capture i
          | none => e
        match rest with
        | ')' :: rest => parseBody fuel fl groups (⟨some e, depth + 1⟩ :: items) branches rest
        | _ => .error .unclosedGroup
    | '[' :: r => do
      let ((s, depth), rest) ← parseClass fl r
      continue_ (⟨some (.ofSet s !fl.unicode), depth⟩ :: items) rest
    | '?' :: r => repeated 0 (some 1) r
    | '*' :: r => repeated 0 none r
    | '+' :: r => repeated 1 none r
    | '\x7b' :: r => do
      let _ ← repeatLast 0 none false items
      let ((least, most), rest) ← parseBounds fl r
      repeated least most rest
    | c :: r => do
      let (item, rest) ← primitive fl c r
      continue_ (item :: items) rest

def depthLimit : Nat := 250

/-- Reads a whole pattern. -/
def parse (text : String) : Except Fault Expr := do
  let cs := text.toList
  let (((e, depth), _), rest) ← parseBody (2 * cs.length + 2) .standard ⟨0, []⟩ [] [] cs
  if !rest.isEmpty then .error .unopenedGroup
  else if depthLimit < depth then .error .tooDeep
  else if e.isSmall then .ok e
  else .error .tooLarge

end TrafficTrace.Pattern
