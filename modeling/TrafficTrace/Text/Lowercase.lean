import TrafficTrace.Text.Letter

/-! Lower case of a whole text. A capital sigma at the end of a word becomes a final sigma. -/
namespace TrafficTrace.Text

def isCased (c : Char) : Bool := cased.mem c
def isCaseIgnorable (c : Char) : Bool := caseIgnorable.mem c

/-- The small letter of one character, whatever stands around it. -/
def lowerChar (c : Char) : List Char :=
  let n := c.toNat
  if n < 0x80 then [if 'A' ≤ c && c ≤ 'Z' then Char.ofNat (n + 32) else c]
  else if n = 0x130 then ['i', Char.ofNat 0x307]
  else match caseRuns.find? (·.contains n) with
    | some r => [Char.ofNat ((n : Int) + r.shift).toNat]
    | none => [c]

/-- A sigma is final when a cased letter stands before it and none after it, where characters that
case ignores do not count. -/
def isFinalSigma (before after : List Char) : Bool :=
  match before.dropWhile isCaseIgnorable with
  | [] => false
  | c :: _ => isCased c && match after.dropWhile isCaseIgnorable with
    | [] => true
    | d :: _ => !isCased d

/-- `before` holds the characters already read, the nearest one first. -/
def lowerChars (before : List Char) : List Char → List Char
  | [] => []
  | c :: cs =>
    (if c = 'Σ' then [if isFinalSigma before cs then 'ς' else 'σ'] else lowerChar c)
      ++ lowerChars (c :: before) cs

def lower (s : String) : String := String.ofList (lowerChars [] s.toList)

/-- Lower case of the ASCII letters only. -/
def asciiLower (s : String) : String :=
  String.ofList (s.toList.map fun c => if 'A' ≤ c && c ≤ 'Z' then Char.ofNat (c.toNat + 32) else c)

example : lower "ÅΟΔΟΣ ΣΑ.Σ" = "åοδος σα.ς" := by decide +kernel

end TrafficTrace.Text
