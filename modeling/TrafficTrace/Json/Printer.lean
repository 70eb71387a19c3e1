import TrafficTrace.Json.Basic
import TrafficTrace.Text.Hex

/-! JSON text: compact, and indented by two spaces. -/
namespace TrafficTrace.Json

/-- A character inside a string. -/
def escapeChar (c : Char) : List Char :=
  if c = '"' then ['\\', '"']
  else if c = '\\' then ['\\', '\\']
  else if c = '\n' then ['\\', 'n']
  else if c = '\r' then ['\\', 'r']
  else if c = '\t' then ['\\', 't']
  else if c.toNat = 8 then ['\\', 'b']
  else if c.toNat = 12 then ['\\', 'f']
  else if c.toNat < 32 then
    ['\\', 'u', '0', '0', Text.hexDigit (c.toNat / 16), Text.hexDigit (c.toNat % 16)]
  else [c]

def writeString (s : String) : List Char := '"' :: s.toList.flatMap escapeChar ++ ['"']

def writeNat (n : Nat) : List Char := Nat.toDigits 10 n

def writeInt (n : Int) : List Char :=
  if n < 0 then '-' :: writeNat n.natAbs else writeNat n.natAbs

mutual
def write : Json → List Char
  | .null => ['n', 'u', 'l', 'l']
  | .bool true => ['t', 'r', 'u', 'e']
  | .bool false => ['f', 'a', 'l', 's', 'e']
  | .int n => writeInt n
  | .float x => x.write
  | .str s => writeString s
  | .arr items => '[' :: writeItems items
  | .obj ms => '\x7b' :: writeMembers ms

/-- The items of an array and its closing bracket. -/
def writeItems : List Json → List Char
  | [] => [']']
  | [j] => write j ++ [']']
  | j :: js => write j ++ ',' :: writeItems js

/-- The members of an object and its closing brace. -/
def writeMembers : List (String × Json) → List Char
  | [] => ['\x7d']
  | [(k, j)] => writeString k ++ ':' :: write j ++ ['\x7d']
  | (k, j) :: ms => writeString k ++ ':' :: write j ++ ',' :: writeMembers ms
end

/-- The compact text. -/
def toText (j : Json) : String := String.ofList j.write

def newLine (depth : Nat) : List Char := '\n' :: List.replicate (2 * depth) ' '

mutual
/-- The indented text of a value that stands at the given depth. -/
def writeIndented (depth : Nat) : Json → List Char
  | .arr [] => ['[', ']']
  | .arr items => '[' :: writeItemsIndented (depth + 1) items ++ newLine depth ++ [']']
  | .obj [] => ['\x7b', '\x7d']
  | .obj ms => '\x7b' :: writeMembersIndented (depth + 1) ms ++ newLine depth ++ ['\x7d']
  | j => write j

def writeItemsIndented (depth : Nat) : List Json → List Char
  | [] => []
  | [j] => newLine depth ++ writeIndented depth j
  | j :: js => newLine depth ++ writeIndented depth j ++ ',' :: writeItemsIndented depth js

def writeMembersIndented (depth : Nat) : List (String × Json) → List Char
  | [] => []
  | [(k, j)] => newLine depth ++ writeString k ++ ':' :: ' ' :: writeIndented depth j
  | (k, j) :: ms =>
    newLine depth ++ writeString k ++ ':' :: ' ' :: writeIndented depth j ++
      ',' :: writeMembersIndented depth ms
end

def toIndentedText (j : Json) : String := String.ofList (j.writeIndented 0)

example : toText (.obj [("a", .arr [.null, .int (-1)]), ("b\n", .str "\"")]) =
    "\x7b\"a\":[null,-1],\"b\\n\":\"\\\"\"\x7d" := by decide +kernel

end TrafficTrace.Json
