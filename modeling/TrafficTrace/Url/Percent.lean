import TrafficTrace.Text.Blank
import TrafficTrace.Text.Hex
import TrafficTrace.Text.Utf8

/-! Percent encoding: a byte that a part of an address cannot hold is written as a percent sign and
two hexadecimal digits. -/
namespace TrafficTrace.Url

def upperDigit (n : Nat) : Char := if n < 10 then Char.ofNat (48 + n) else Char.ofNat (55 + n)

def percentByte (b : UInt8) : List Char := ['%', upperDigit (b.toNat / 16), upperDigit (b.toNat % 16)]

/-- A byte, as the character of its number where that is kept. -/
def encodeByte (kept : Nat → Bool) (b : UInt8) : List Char :=
  if kept b.toNat then [Char.ofNat b.toNat] else percentByte b

/-- The text with every byte encoded that is not kept. -/
def percentEncode (kept : Nat → Bool) (cs : List Char) : List Char :=
  (Text.utf8 cs).flatMap (encodeByte kept)

/-- A percent sign without two digits after it stands for itself. -/
def percentDecode : List UInt8 → List UInt8
  | p :: a :: b :: rest =>
    if p = 37 then
      match Text.hexValue? (Char.ofNat a.toNat), Text.hexValue? (Char.ofNat b.toNat) with
      | some x, some y => UInt8.ofNat (x * 16 + y) :: percentDecode rest
      | _, _ => p :: percentDecode (a :: b :: rest)
    else p :: percentDecode (a :: b :: rest)
  | bs => bs

/-- The printable characters of ASCII apart from some. -/
def printableBut (others : List Char) (n : Nat) : Bool :=
  32 ≤ n && n ≤ 126 && !others.any (·.toNat = n)

def inFragment : Nat → Bool := printableBut [' ', '"', '<', '>', '\x60']

def inPath : Nat → Bool :=
  printableBut [' ', '"', '<', '>', '\x60', '#', '?', '\x7b', '\x7d']

def inQuery : Nat → Bool := printableBut [' ', '"', '#', '<', '>']

/-- What the query of an address with a well known scheme may hold. -/
def inSpecialQuery : Nat → Bool := printableBut [' ', '"', '#', '<', '>', '\'']

def inUserInfo : Nat → Bool :=
  printableBut [' ', '"', '<', '>', '\x60', '#', '?', '\x7b', '\x7d', '/', ':', ';', '=', '@', '[',
    '\\', ']', '^', '|']

example : String.ofList (percentEncode inPath "é x%41".toList) = "%C3%A9%20x%41" := by decide +kernel

/-! ### Queries

Pairs in the query of an address: a blank is a plus sign, letters, digits and four marks stay, and
every other byte is percent encoded. -/

def inForm (n : Nat) : Bool :=
  (48 ≤ n && n ≤ 57) || (65 ≤ n && n ≤ 90) || (97 ≤ n && n ≤ 122) || n = 42 || n = 45 || n = 46
    || n = 95

def formByte (b : UInt8) : List Char := if b = 32 then ['+'] else encodeByte inForm b

def formEncode (s : String) : List Char := (Text.utf8 s.toList).flatMap formByte

def formPair (p : String × String) : List Char := formEncode p.1 ++ '=' :: formEncode p.2

/-- The pairs in their order. -/
def formPairs (ps : List (String × String)) : List Char := ['&'].intercalate (ps.map formPair)

/-- The text of an encoded name or value, unless its bytes are no text. -/
def formDecode? (cs : List Char) : Option String :=
  Text.ofUtf8? (percentDecode (Text.utf8 (cs.map fun c => if c = '+' then ' ' else c)))

/-- The pairs of a query; a piece without an equals sign is a name with an empty value, and an empty
piece is nothing. -/
def formRead? (query : List Char) : Option (List (String × String)) :=
  ((Text.pieces (· = '&') query).filter (!·.isEmpty)).mapM fun piece =>
    match Text.splitFirst '=' piece with
    | some (name, value) => do return (← formDecode? name, ← formDecode? value)
    | none => do return (← formDecode? piece, "")

example : String.ofList (formPairs [("label", "v 2/é&x"), ("", "")]) = "label=v+2%2F%C3%A9%26x&=" := by
  decide +kernel

end TrafficTrace.Url
