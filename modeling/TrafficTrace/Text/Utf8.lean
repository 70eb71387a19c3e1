/-! Text as bytes in UTF-8, and bytes that may be wrong as text: each longest piece that cannot be
continued is read as one replacement character. -/
namespace TrafficTrace.Text

def utf8 (cs : List Char) : List UInt8 := cs.flatMap String.utf8EncodeChar

/-- The text of bytes that are well formed. -/
def ofUtf8? (bs : List UInt8) : Option String := String.fromUTF8? ⟨bs.toArray⟩

def replacement : Char := Char.ofNat 0xFFFD

/-- A character that is not complete: how many bytes are lacking, between which bounds the next one
has to lie, and the bits so far. -/
structure Unfinished where
  lacking : Nat
  low : Nat
  high : Nat
  bits : Nat
deriving DecidableEq, Repr

/-- What the first byte of a character gives. -/
def beginChar (b : Nat) : List Char × Option Unfinished :=
  if b < 0x80 then ([Char.ofNat b], none)
  else if b < 0xC2 then ([replacement], none)
  else if b < 0xE0 then ([], some ⟨1, 0x80, 0xBF, b % 32⟩)
  else if b = 0xE0 then ([], some ⟨2, 0xA0, 0xBF, 0⟩)
  else if b = 0xED then ([], some ⟨2, 0x80, 0x9F, 13⟩)
  else if b < 0xF0 then ([], some ⟨2, 0x80, 0xBF, b % 16⟩)
  else if b = 0xF0 then ([], some ⟨3, 0x90, 0xBF, 0⟩)
  else if b < 0xF4 then ([], some ⟨3, 0x80, 0xBF, b % 8⟩)
  else if b = 0xF4 then ([], some ⟨3, 0x80, 0x8F, 4⟩)
  else ([replacement], none)

def stepUtf8 (u : Option Unfinished) (b : Nat) : List Char × Option Unfinished :=
  match u with
  | none => beginChar b
  | some u =>
    if u.low ≤ b && b ≤ u.high then
      let bits := u.bits * 64 + b % 64
      if u.lacking = 1 then ([Char.ofNat bits], none)
      else ([], some ⟨u.lacking - 1, 0x80, 0xBF, bits⟩)
    else
      let (cs, v) := beginChar b
      (replacement :: cs, v)

def readUtf8 (u : Option Unfinished) : List UInt8 → List Char
  | [] => if u.isSome then [replacement] else []
  | b :: bs =>
    let (cs, v) := stepUtf8 u b.toNat
    cs ++ readUtf8 v bs

def ofUtf8Lossy (bs : List UInt8) : String := String.ofList (readUtf8 none bs)

example :
    ofUtf8Lossy [0x61, 0xC3, 0xA9, 0xE2, 0x82, 0x62, 0xFF, 0xF0, 0x9F, 0x98, 0x80] = "aé�b�😀" := by
  decide +kernel

end TrafficTrace.Text
