import TrafficTrace.Pattern.Expr
import TrafficTrace.Pattern.Fault
import TrafficTrace.Text.Blank
import TrafficTrace.Text.Hex

/-! Escapes in patterns: characters by number, properties, classes of one letter and conditions on
positions, under the flags that hold where the escape stands. -/
namespace TrafficTrace.Pattern

open Text (CharSet)

structure Flags where
  caseless : Bool
  multiLine : Bool
  dotAll : Bool
  crlf : Bool
  verbose : Bool
  unicode : Bool
  /-- Whether repetitions prefer few unless they are marked. -/
  few : Bool
deriving DecidableEq, Repr

def Flags.standard : Flags := ⟨false, false, false, false, false, true, false⟩

/-- What was read, and the characters after it. -/
abbrev Parsed (α : Type) := α × List Char

def orFault {α : Type} (f : Fault) : Option α → Except Fault α
  | some a => .ok a
  | none => .error f

/-- Skips blanks and comments up to the end of their lines. -/
def skipComments : (inComment : Bool) → List Char → List Char
  | _, [] => []
  | true, c :: cs => skipComments (c ≠ '\n') cs
  | false, c :: cs =>
    if Text.isBlank c then skipComments false cs
    else if c = '#' then skipComments true cs
    else c :: cs

/-- Blanks and comments count for nothing in a verbose pattern. -/
def skip (fl : Flags) (cs : List Char) : List Char :=
  if fl.verbose then skipComments false cs else cs

/-- What an escape or a single character stands for. -/
inductive Atom where
  | char (c : Char)
  | set (s : CharSet)
  | look (l : Look)

def isMeta (c : Char) : Bool := "\\.+*?()|[]\x7b\x7d^$#&-~".toList.contains c

/-- Hexadecimal digits to a character. -/
def hexChar? (ds : List Char) : Option Char := do
  let n ← ds.foldlM (fun n d => do return n * 16 + (← Text.hexValue? d)) 0
  if ds.isEmpty ∨ 0x10FFFF < n ∨ (0xD800 ≤ n ∧ n < 0xE000) then none else some (Char.ofNat n)

/-- The given number of digits, between which a verbose pattern may have blanks. -/
def takeDigits (fl : Flags) : Nat → List Char → Option (List Char × List Char)
  | 0, cs => some ([], cs)
  | n + 1, cs =>
    match skip fl cs with
    | [] => none
    | c :: r => (takeDigits fl n r).map fun (ds, r) => (c :: ds, r)

/-- The characters up to a closing brace, without those that count for nothing. -/
def takeBraced (fl : Flags) : (fuel : Nat) → List Char → Option (List Char × List Char)
  | 0, _ => none
  | fuel + 1, cs =>
    match skip fl cs with
    | [] => none
    | '\x7d' :: r => some ([], r)
    | c :: r => (takeBraced fl fuel r).map fun (ds, r) => (c :: ds, r)

def hexEscape (fl : Flags) (width : Nat) (cs : List Char) : Except Fault (Parsed Atom) := do
  let (ds, fixed, rest) ← match skip fl cs with
    | '\x7b' :: r => do
      let (ds, r) ← orFault .badEscape (takeBraced fl (r.length + 1) r)
      pure (ds, false, r)
    | r => do
      let (ds, r) ← orFault .badEscape (takeDigits fl width r)
      pure (ds, true, r)
  let c ← orFault .badEscape (hexChar? ds)
  -- a byte outside ASCII is no text of its own
  if !fl.unicode && fixed && width == 2 && 0x80 ≤ c.toNat then .error .notUnicode
  else .ok (.char c, rest)

def splitAt? (sep : List Char) : List Char → Option (List Char × List Char)
  | [] => none
  | c :: cs =>
    if sep.isPrefixOf (c :: cs) then some ([], (c :: cs).drop sep.length)
    else (splitAt? sep cs).map fun (a, b) => (c :: a, b)

/-- A property with braces around it, possibly as a kind of property and a value. That the two signs of
inequality part them makes no difference. -/
def bracedProperty? (name : List Char) : Option CharSet :=
  let parted := (splitAt? ['!', '='] name).orElse fun _ =>
    (splitAt? [':'] name).orElse fun _ => splitAt? ['='] name
  match parted with
  | some (kind, value) => propertyValue? kind value
  | none => property? name

/-- A set with the other cases of its letters, where case does not count. -/
def folded (fl : Flags) (s : CharSet) : CharSet :=
  if fl.caseless then (if fl.unicode then s.caseless else asciiCaseless s) else s

/-- Case comes before negation: what is left out is left out in every case. Without Unicode a set has
to keep to ASCII. -/
def foldedSet (fl : Flags) (negated : Bool) (s : CharSet) : Except Fault CharSet :=
  let s := folded fl s
  let s := if negated then s.complement else s
  if fl.unicode || s.isAscii then .ok s else .error .notUnicode

/-- One character, in every case where case does not count. -/
def foldedChar (fl : Flags) (c : Char) : Expr :=
  if !fl.caseless then .literal [c]
  else if fl.unicode then
    .ofSet (CharSet.ofRanges ((Text.caseVariants c).map fun d => (d.toNat, d.toNat))) false
  else .ofSet (asciiCaseless (CharSet.single c)) true

def propertyEscape (fl : Flags) (negated : Bool) (cs : List Char) : Except Fault (Parsed Atom) := do
  let (found, rest) ← match skip fl cs with
    | [] => throw .badEscape
    | '\x7b' :: r => do
      let (name, r) ← orFault .badEscape (takeBraced fl (r.length + 1) r)
      pure (bracedProperty? name, r)
    | c :: r => pure (property? [c], r)
  if !fl.unicode then throw .notUnicode
  let s ← orFault .badProperty found
  return (.set (← foldedSet fl negated s), rest)

/-- Digits, blanks and word characters by their letters. -/
def letterSet (fl : Flags) (c : Char) : CharSet :=
  match c.toLower with
  | 'd' => if fl.unicode then digits else asciiDigits
  | 's' => if fl.unicode then blanks else asciiBlanks
  | _ => if fl.unicode then wordChars else asciiWordChars

/-- A boundary named in braces; anything but a letter after the brace is left to repetition. -/
def boundaryEscape (fl : Flags) (cs : List Char) : Except Fault (Parsed Atom) :=
  let ascii := !fl.unicode
  let isNameChar (c : Char) : Bool := c.isAlpha || c = '-'
  match cs with
  | '\x7b' :: r =>
    match skip fl r with
    | [] => .error .badEscape
    | c :: r =>
      if !isNameChar c then .ok (.look (.boundary ascii), cs)
      else match takeBraced fl (r.length + 2) (c :: r) with
        | some (name, rest) =>
          match String.ofList name with
          | "start" => .ok (.look (.wordStart ascii), rest)
          | "end" => .ok (.look (.wordEnd ascii), rest)
          | "start-half" => .ok (.look (.halfStart ascii), rest)
          | "end-half" => .ok (.look (.halfEnd ascii), rest)
          | _ => .error .badEscape
        | none => .error .badEscape
  | _ => .ok (.look (.boundary ascii), cs)

/-- The escape after a backslash. -/
def escape (fl : Flags) (cs : List Char) : Except Fault (Parsed Atom) :=
  let ascii := !fl.unicode
  match cs with
  | [] => .error .badEscape
  | 'x' :: r => hexEscape fl 2 r
  | 'u' :: r => hexEscape fl 4 r
  | 'U' :: r => hexEscape fl 8 r
  | 'p' :: r => propertyEscape fl false r
  | 'P' :: r => propertyEscape fl true r
  | 'b' :: r => boundaryEscape fl r
  | 'B' :: r => .ok (.look (.notBoundary ascii), r)
  | 'A' :: r => .ok (.look .textStart, r)
  | 'z' :: r => .ok (.look .textEnd, r)
  | '<' :: r => .ok (.look (.wordStart ascii), r)
  | '>' :: r => .ok (.look (.wordEnd ascii), r)
  | 'a' :: r => .ok (.char (Char.ofNat 7), r)
  | 'f' :: r => .ok (.char (Char.ofNat 12), r)
  | 't' :: r => .ok (.char '\t', r)
  | 'n' :: r => .ok (.char '\n', r)
  | 'r' :: r => .ok (.char '\r', r)
  | 'v' :: r => .ok (.char (Char.ofNat 11), r)
  | c :: r =>
    if c ∈ ['d', 's', 'w'] then .ok (.set (letterSet fl c), r)
    else if c ∈ ['D', 'S', 'W'] then do
      return (.set (← foldedSet { fl with caseless := false } true (letterSet fl c)), r)
    else if isMeta c || (c.toNat < 0x80 && !c.isAlphanum) then .ok (.char c, r)
    else .error .badEscape

end TrafficTrace.Pattern
