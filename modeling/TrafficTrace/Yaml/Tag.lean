import TrafficTrace.Text.Hex
import TrafficTrace.Text.Utf8
import TrafficTrace.Yaml.Spot

/-! Tags: what a scalar is said to be. A handle stands for the start of a tag. A byte that a tag
cannot hold is written as a percent sign and two hexadecimal digits, and a zero byte ends a tag. -/
namespace TrafficTrace.Yaml

/-- Handles of tags that a document declares, with what they stand for. -/
abbrev Handles := List (String × String)

def coreTag (name : String) : String := "tag:yaml.org,2002:" ++ name

/-- The full tag, if its handle is known. -/
def resolveTag (hs : Handles) (handle suffix : String) : Option String :=
  if handle = "" then some suffix
  else match hs.lookup handle with
    | some start => some (start ++ suffix)
    | none =>
      if handle = "!" then some ("!" ++ suffix)
      else if handle = "!!" then some (coreTag suffix)
      else none

def isTagChar (c : Char) : Bool := isWord c || c ∈ ";/?:@&=+$.!~*'()".toList

/-- A byte as a percent sign and two hexadecimal digits. -/
def readByte : List Spot → Option (UInt8 × List Spot)
  | p :: a :: b :: rest =>
    if p.char = '%' then do
      let high ← Text.hexValue? a.char
      let low ← Text.hexValue? b.char
      return (UInt8.ofNat (high * 16 + low), rest)
    else none
  | _ => none

/-- How many bytes follow the first byte of a character. -/
def trailLength? (lead : UInt8) : Option Nat :=
  if lead < 0x80 then some 0
  else if lead < 0xC0 then none
  else if lead < 0xE0 then some 1
  else if lead < 0xF0 then some 2
  else if lead < 0xF8 then some 3
  else none

/-- So many bytes that go on with a character. -/
def readTrail : Nat → List Spot → Option (List UInt8 × List Spot)
  | 0, ss => some ([], ss)
  | n + 1, ss => do
    let (b, ss) ← readByte ss
    if b < 0x80 || 0xC0 ≤ b then none
    let (bs, ss) ← readTrail n ss
    return (b :: bs, ss)

/-- The bytes of a part of a tag; `wide` where it may hold commas and square brackets. The fuel bounds
the characters. -/
def readTagBytes (wide : Bool) (fuel : Nat) (ss : List Spot) : Option (List UInt8 × List Spot) :=
  match fuel, ss with
  | 0, _ | _, [] => some ([], ss)
  | fuel + 1, s :: rest =>
    if s.char = '%' then do
      let (lead, ss) ← readByte (s :: rest)
      let (trail, ss) ← readTrail (← trailLength? lead) ss
      let (bs, ss) ← readTagBytes wide fuel ss
      return (lead :: trail ++ bs, ss)
    else if isTagChar s.char || (wide && (s.char = ',' || s.char = '[' || s.char = ']')) then do
      let (bs, ss) ← readTagBytes wide fuel rest
      return (Text.utf8 [s.char] ++ bs, ss)
    else some ([], s :: rest)

/-- The text of a tag's bytes, which ends at a zero byte. -/
def tagText (bs : List UInt8) : String := Text.ofUtf8Lossy (bs.takeWhile (· ≠ 0))

def readTagPart (wide : Bool) (ss : List Spot) : Option (List UInt8 × List Spot) :=
  readTagBytes wide ss.length ss

/-- A part of a tag that is not empty as it is written. -/
def readTagText (wide : Bool) (ss : List Spot) : Option (String × List Spot) := do
  let (bs, rest) ← readTagPart wide ss
  if bs.isEmpty then none else some (tagText bs, rest)

/-- An exclamation mark and the word after it, with a second mark if there is one. -/
def readHandle : List Spot → Option (List Char × List Spot)
  | s :: rest =>
    if s.char = '!' then
      let (word, rest) := Spot.takeWord isWord rest
      if Spot.startsWith '!' rest then some ('!' :: word ++ ['!'], rest.drop 1)
      else some ('!' :: word, rest)
    else none
  | [] => none

/-- A handle and a suffix: a tag in full, between angle brackets, has no handle. A mark and nothing
after it is a tag in full as well. -/
def readTag (inFlow : Bool) (ss : List Spot) : Option ((String × String) × List Spot) := do
  let (tag, rest) ←
    if Spot.startsWith '<' (ss.drop 1) then do
      let (full, rest) ← readTagText true (ss.drop 2)
      if !Spot.startsWith '>' rest then none
      some (("", full), rest.drop 1)
    else do
      let (handle, rest) ← readHandle ss
      if handle.length > 1 && handle.getLast? == some '!' then
        let (suffix, rest) ← readTagText false rest
        some ((String.ofList handle, suffix), rest)
      else
        let (bs, rest) ← readTagPart false rest
        let suffix := tagText (Text.utf8 (handle.drop 1) ++ bs)
        some (if suffix = "" then ("", "!") else ("!", suffix), rest)
  if !(inFlow && Spot.startsWith ',' rest) && !Spot.atGap rest then none
  return (tag, rest)

example : (readTag false (locate 0 0 0 "!!nul%6C x".toList)).map (·.1) = some ("!!", "null") := by
  decide +kernel

example : (readTag false (locate 0 0 0 "!%c3 x".toList)).map (·.1) = none := by decide +kernel

end TrafficTrace.Yaml
