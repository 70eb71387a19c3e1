import TrafficTrace.Text.Hex

/-! Universally unique identifiers: sixteen bytes and their written forms. -/
namespace TrafficTrace

structure Uuid where
  bytes : List UInt8
  length_eq : bytes.length = 16
deriving DecidableEq, Repr

namespace Uuid

/-- Sixteen bytes of one value. -/
def fill (b : UInt8) : Uuid := ⟨List.replicate 16 b, List.length_replicate⟩

def nil : Uuid := fill 0

instance : Inhabited Uuid := ⟨nil⟩

def isNil (u : Uuid) : Bool := u = nil

def ofBytes? (bs : List UInt8) : Option Uuid :=
  if h : bs.length = 16 then some ⟨bs, h⟩ else none

/-- The bytes with the marks of a random identifier (version 4). -/
def asRandom (u : Uuid) : Uuid :=
  ⟨(u.bytes.modify 6 fun b => (b &&& 0x0f) ||| 0x40).modify 8 fun b => (b &&& 0x3f) ||| 0x80,
    by simp [u.length_eq]⟩

/-- The bytes as one number, which orders identifiers. -/
def toNat (u : Uuid) : Nat := u.bytes.foldl (fun n b => n * 256 + b.toNat) 0

/-- The 32 digits. -/
def simple (u : Uuid) : List Char := Text.hexOfBytes u.bytes

/-- The digits in groups of 8, 4, 4, 4 and 12. -/
def hyphenated (u : Uuid) : List Char :=
  let d := u.simple
  d.take 8 ++ '-' :: (d.drop 8).take 4 ++ '-' :: (d.drop 12).take 4 ++
    '-' :: (d.drop 16).take 4 ++ '-' :: d.drop 20

def ofSimple? (cs : List Char) : Option Uuid := do
  let bs ← Text.bytesOfHex? cs
  ofBytes? bs

/-- The digits without the hyphens, which have to stand in their places. -/
def ofHyphenated? (cs : List Char) : Option Uuid :=
  let hyphens := [8, 13, 18, 23]
  if cs.length = 36 ∧ hyphens.all (fun i => cs[i]? == some '-') then
    ofSimple? (cs.take 8 ++ (cs.drop 9).take 4 ++ (cs.drop 14).take 4 ++ (cs.drop 19).take 4 ++
      cs.drop 24)
  else none

/-- Digits alone, with hyphens, or with hyphens in braces or after `urn:uuid:`. -/
def read? (cs : List Char) : Option Uuid :=
  if cs.length = 32 then ofSimple? cs
  else if cs.length = 36 then ofHyphenated? cs
  else match cs with
    | '\x7b' :: r => if r.getLast? = some '\x7d' then ofHyphenated? r.dropLast else none
    | 'u' :: 'r' :: 'n' :: ':' :: 'u' :: 'u' :: 'i' :: 'd' :: ':' :: r => ofHyphenated? r
    | _ => none

def toText (u : Uuid) : String := String.ofList u.hyphenated
def ofText? (s : String) : Option Uuid := read? s.toList

/-- The first eight digits, which name a client in messages. -/
def short (u : Uuid) : String := String.ofList (u.hyphenated.take 8)

def describe (u : Uuid) : String := "ClientIdentity(" ++ u.short ++ ")"

theorem ofSimple?_simple (u : Uuid) : ofSimple? u.simple = some u := by
  simp [ofSimple?, simple, ofBytes?, u.length_eq]

theorem length_simple (u : Uuid) : u.simple.length = 32 := by
  simp [simple, Text.length_hexOfBytes, u.length_eq]

example : (ofText? "\x7b01234567-89AB-cdef-0123-456789abcdef\x7d").map toText =
    some "01234567-89ab-cdef-0123-456789abcdef" := by decide +kernel

end Uuid

end TrafficTrace
