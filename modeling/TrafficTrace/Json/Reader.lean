import TrafficTrace.Json.Numeral
import TrafficTrace.Json.Printer

/-! Reading JSON text. The reader gives the document up to the first fault and, where there is none,
the characters that follow the value. -/
namespace TrafficTrace.Json

open Document

/-- Containers may be nested up to this depth. -/
def depthLimit : Nat := 127

def isSpace (c : Char) : Bool := c = ' ' || c = '\n' || c = '\t' || c = '\r'

def skipSpace (cs : List Char) : List Char := cs.dropWhile isSpace

/-- Four hexadecimal digits. -/
def readHex4 : List Char → Option (Nat × List Char)
  | a :: b :: c :: d :: rest => do
    let a ← Text.hexValue? a
    let b ← Text.hexValue? b
    let c ← Text.hexValue? c
    let d ← Text.hexValue? d
    return (((a * 16 + b) * 16 + c) * 16 + d, rest)
  | _ => none

def simpleEscape? : Char → Option Char
  | '"' => some '"'
  | '\\' => some '\\'
  | '/' => some '/'
  | 'b' => some (Char.ofNat 8)
  | 'f' => some (Char.ofNat 12)
  | 'n' => some '\n'
  | 'r' => some '\r'
  | 't' => some '\t'
  | _ => none

/-- A piece of a string: a character, or half of a pair that stands for one. -/
inductive Unit16 where
  | char (c : Char)
  | high (n : Nat)
  | low (n : Nat)
deriving DecidableEq, Repr

def Unit16.ofNat (n : Nat) : Unit16 :=
  if 0xD800 ≤ n ∧ n < 0xDC00 then high n
  else if 0xDC00 ≤ n ∧ n < 0xE000 then low n
  else char (Char.ofNat n)

/-- Joins the pairs; a half that stands alone makes the string worthless. -/
def joinUnits : List Unit16 → Option (List Char)
  | [] => some []
  | .char c :: us => (joinUnits us).map (c :: ·)
  | .high a :: .low b :: us =>
    (joinUnits us).map (Char.ofNat (0x10000 + (a - 0xD800) * 0x400 + (b - 0xDC00)) :: ·)
  | .high _ :: _ | .low _ :: _ => none

/-- The pieces of a string up to its closing quote, and the rest; none at a fault. -/
def readUnits : List Char → Option (List Unit16 × List Char)
  | [] => none
  | '"' :: rest => some ([], rest)
  | ['\\'] => none
  | '\\' :: 'u' :: a :: b :: c :: d :: rest => do
    let (n, _) ← readHex4 [a, b, c, d]
    let (us, rest) ← readUnits rest
    return (Unit16.ofNat n :: us, rest)
  | '\\' :: e :: rest => do
    let c ← simpleEscape? e
    let (us, rest) ← readUnits rest
    return (.char c :: us, rest)
  | c :: rest =>
    if c.toNat < 32 then none
    else do
      let (us, rest) ← readUnits rest
      return (.char c :: us, rest)

/-- A string after its opening quote. -/
def readString (cs : List Char) : Option (Option String × List Char) := do
  let (us, rest) ← readUnits cs
  return ((joinUnits us).map String.ofList, rest)

def isDigit (c : Char) : Bool := '0' ≤ c && c ≤ '9'

def digits (cs : List Char) : List Nat := (cs.takeWhile isDigit).map (·.toNat - 48)
def afterDigits (cs : List Char) : List Char := cs.dropWhile isDigit

/-- A number, without a superfluous zero in front, and with digits after point and exponent. -/
def readNumber (cs : List Char) : Option (NumberText × List Char) := do
  let (negative, cs) := match cs with
    | '-' :: r => (true, r)
    | r => (false, r)
  let whole := digits cs
  let rest := afterDigits cs
  if whole.isEmpty || (whole.length > 1 && whole.head? == some 0) then none
  let (fraction, rest) ← match rest with
    | '.' :: r => if (digits r).isEmpty then none else some (some (digits r), afterDigits r)
    | r => some (none, r)
  let (exponent, rest) ← match rest with
    | e :: r =>
      if e = 'e' ∨ e = 'E' then
        let (neg, r) := match r with
          | '+' :: r => (false, r)
          | '-' :: r => (true, r)
          | r => (false, r)
        if (digits r).isEmpty then none else some (some (neg, digits r), afterDigits r)
      else some (none, rest)
    | [] => some (none, rest)
  return (⟨negative, whole, fraction, exponent⟩, rest)

/-- Drops a given word. -/
def readWord : List Char → List Char → Option (List Char)
  | [], cs => some cs
  | w :: ws, c :: cs => if w = c then readWord ws cs else none
  | _ :: _, [] => none

/-- What was read, and the characters after it unless there was a fault. -/
abbrev Reading (α : Type) := α × Option (List Char)

def word (w : List Char) (n : Node) (cs : List Char) : Reading Node :=
  match readWord w cs with
  | some rest => (n, some rest)
  | none => (.fault, none)

def atDepth (depth : Nat) (n : Node) : Node := if depth < depthLimit then n else .deep n

mutual
/-- A value at the given depth, after the blanks before it. The fuel bounds the steps. -/
def readValue (fuel depth : Nat) (cs : List Char) : Reading Node :=
  match fuel with
  | 0 => (.fault, none)
  | fuel + 1 =>
    match skipSpace cs with
    | [] => (.fault, none)
    | c :: rest =>
      if c = 'n' then word ['u', 'l', 'l'] .null rest
      else if c = 't' then word ['r', 'u', 'e'] (.bool true) rest
      else if c = 'f' then word ['a', 'l', 's', 'e'] (.bool false) rest
      else if c = '"' then
        match readString rest with
        | some (s, rest) => (.string s, some rest)
        | none => (.fault, none)
      else if c = '[' then
        let ((items, closed), rest) := match skipSpace rest with
          | ']' :: rest => (([], true), some rest)
          | rest => readItems fuel (depth + 1) rest
        (atDepth depth (.array items closed), rest)
      else if c = '\x7b' then
        let ((ms, closed), rest) := match skipSpace rest with
          | '\x7d' :: rest => (([], true), some rest)
          | rest => readMembers fuel (depth + 1) rest
        (atDepth depth (.object ms closed), rest)
      else
        match readNumber (c :: rest) with
        | some (t, rest) => (.number t.value?, some rest)
        | none => (.fault, none)

/-- The items from here to the closing bracket, and whether it came. -/
def readItems (fuel depth : Nat) (cs : List Char) : Reading (List Node × Bool) :=
  match fuel with
  | 0 => (([], false), none)
  | fuel + 1 =>
    match readValue fuel depth cs with
    | (n, none) => (([n], false), none)
    | (n, some rest) =>
      match skipSpace rest with
      | ']' :: rest => (([n], true), some rest)
      | ',' :: rest =>
        let ((ns, closed), rest) := readItems fuel depth rest
        ((n :: ns, closed), rest)
      | _ => (([n], false), none)

/-- The members from here to the closing brace, and whether it came. -/
def readMembers (fuel depth : Nat) (cs : List Char) :
    Reading (List (Option String × Node) × Bool) :=
  match fuel with
  | 0 => (([], false), none)
  | fuel + 1 =>
    match skipSpace cs with
    | '"' :: rest =>
      match readString rest with
      | none => (([], false), none)
      | some (key, rest) =>
        match skipSpace rest with
        | ':' :: rest =>
          match readValue fuel depth rest with
          | (n, none) => (([(key, n)], false), none)
          | (n, some rest) =>
            match skipSpace rest with
            | '\x7d' :: rest => (([(key, n)], true), some rest)
            | ',' :: rest =>
              let ((ms, closed), rest) := readMembers fuel depth rest
              (((key, n) :: ms, closed), rest)
            | _ => (([(key, n)], false), none)
        | _ => (([(key, .fault)], false), none)
    | _ => (([], false), none)
end

/-- The document of a text, and whether nothing but blanks follows it. -/
def readText (s : String) : Node × Bool :=
  let cs := s.toList
  match readValue (2 * cs.length + 2) 0 cs with
  | (n, some rest) => (n, rest.all isSpace)
  | (n, none) => (n, false)

/-- Decodes a whole text. -/
def decodeText {α : Type} (d : Decoder α) (s : String) : Except DecodeError α := do
  let (n, complete) := readText s
  let a ← d n
  if complete then return a else .error .malformed

def ofText? (s : String) : Option Json :=
  match decodeText Decoder.json s with
  | .ok j => some j
  | .error _ => none

example : ofText? " \x7b\"b\": [1, -2.50], \"a\":\"\\ud83d\\ude00\" \x7d " =
    some (.obj [("a", .str "😀"), ("b", .arr [.int 1, .float ⟨true, 5629499534213120, -51⟩])]) := by
  decide +kernel

end TrafficTrace.Json
