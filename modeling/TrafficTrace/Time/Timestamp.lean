import TrafficTrace.Text.Blank
import TrafficTrace.Document.Node

/-! Moments in universal time by calendar date and time of day, and their text (RFC 3339). Reading is
lenient: blanks may stand before numbers and separators, leading zeros may be missing, and any offset
from universal time is taken off. A leap second is second 60 of any minute. -/
namespace TrafficTrace

structure Date where
  year : Int
  month : Nat
  day : Nat
deriving DecidableEq, Repr

namespace Date

def isLeap (year : Int) : Bool := year % 4 = 0 && (year % 100 ≠ 0 || year % 400 = 0)

def daysInMonth (year : Int) (month : Nat) : Nat :=
  if month = 2 then (if isLeap year then 29 else 28)
  else if month = 4 ∨ month = 6 ∨ month = 9 ∨ month = 11 then 30 else 31

def leastYear : Int := -262143
def greatestYear : Int := 262142

/-- A date of the calendar in the range that is supported. -/
def isValid (d : Date) : Bool :=
  leastYear ≤ d.year && d.year ≤ greatestYear && 1 ≤ d.month && d.month ≤ 12 && 1 ≤ d.day &&
    d.day ≤ daysInMonth d.year d.month

def next (d : Date) : Date :=
  if d.day < daysInMonth d.year d.month then { d with day := d.day + 1 }
  else if d.month < 12 then ⟨d.year, d.month + 1, 1⟩
  else ⟨d.year + 1, 1, 1⟩

def previous (d : Date) : Date :=
  if 1 < d.day then { d with day := d.day - 1 }
  else if 1 < d.month then ⟨d.year, d.month - 1, daysInMonth d.year (d.month - 1)⟩
  else ⟨d.year - 1, 12, 31⟩

end Date

structure Timestamp where
  date : Date
  hour : Nat
  minute : Nat
  second : Nat
  nano : Nat
deriving DecidableEq, Repr

namespace Timestamp

/-- The start of the year 1970. -/
def epoch : Timestamp := ⟨⟨1970, 1, 1⟩, 0, 0, 0, 0⟩

def isValid (t : Timestamp) : Bool :=
  t.date.isValid && t.hour < 24 && t.minute < 60 && t.second ≤ 60 && t.nano < 1000000000

/-- At least `width` digits. -/
def padded (width n : Nat) : List Char :=
  let ds := Nat.toDigits 10 n
  List.replicate (width - ds.length) '0' ++ ds

def writeYear (y : Int) : List Char :=
  if 0 ≤ y ∧ y ≤ 9999 then padded 4 y.natAbs
  else (if y < 0 then '-' else '+') :: padded 4 y.natAbs

/-- Nothing, or three, six or nine digits. -/
def writeFraction (nano : Nat) : List Char :=
  if nano = 0 then []
  else if nano % 1000000 = 0 then '.' :: padded 3 (nano / 1000000)
  else if nano % 1000 = 0 then '.' :: padded 6 (nano / 1000)
  else '.' :: padded 9 nano

def write (t : Timestamp) : List Char :=
  writeYear t.date.year ++ '-' :: padded 2 t.date.month ++ '-' :: padded 2 t.date.day ++
    'T' :: padded 2 t.hour ++ ':' :: padded 2 t.minute ++ ':' :: padded 2 t.second ++
    writeFraction t.nano ++ ['Z']

def toText (t : Timestamp) : String := String.ofList t.write

def isDigit (c : Char) : Bool := '0' ≤ c && c ≤ '9'

/-- At most `most` digits, and at least one. -/
def readDigits (most : Nat) (cs : List Char) : Option (Nat × List Char) :=
  let ds := (cs.take most).takeWhile isDigit
  if ds.isEmpty then none
  else some (ds.foldl (fun n c => n * 10 + (c.toNat - 48)) 0, cs.drop ds.length)

def skipBlanks (cs : List Char) : List Char := cs.dropWhile Text.isBlank

/-- A number after blanks. -/
def readField (most : Nat) (cs : List Char) : Option (Nat × List Char) :=
  readDigits most (skipBlanks cs)

/-- Four digits at most, or any number of them after a sign. -/
def readYear (cs : List Char) : Option (Int × List Char) :=
  match skipBlanks cs with
  | '-' :: r => (readDigits r.length r).map fun (n, r) => (-n, r)
  | '+' :: r => (readDigits r.length r).map fun (n, r) => (n, r)
  | r => (readDigits 4 r).map fun (n, r) => (n, r)

/-- A separator after blanks. -/
def readMark (mark : Char) (cs : List Char) : Option (List Char) :=
  match skipBlanks cs with
  | c :: r => if c = mark then some r else none
  | [] => none

/-- The first nine digits after a point count. -/
def readFraction (cs : List Char) : Option (Nat × List Char) :=
  match cs with
  | '.' :: r => do
    let (n, rest) ← readDigits 9 r
    return (n * Nat.pow 10 (9 - (r.length - rest.length)), rest.dropWhile isDigit)
  | r => some (0, r)

def twoDigits : List Char → Option (Nat × List Char)
  | a :: b :: r =>
    if isDigit a && isDigit b then some ((a.toNat - 48) * 10 + (b.toNat - 48), r) else none
  | _ => none

/-- The offset from universal time in minutes: `Z`, `UTC`, or a sign, hours and minutes. -/
def readOffset (cs : List Char) : Option (Int × List Char) :=
  match cs with
  | 'Z' :: r | 'z' :: r => some (0, r)
  | u :: t :: c :: r =>
    if (u = 'U' ∨ u = 'u') ∧ (t = 'T' ∨ t = 't') ∧ (c = 'C' ∨ c = 'c') then some (0, r)
    else signed (u :: t :: c :: r)
  | _ => none
where
  signed : List Char → Option (Int × List Char)
    | '+' :: r => amount r
    | '-' :: r | '−' :: r => (amount r).map fun (n, r) => (-n, r)
    | _ => none
  amount (r : List Char) : Option (Int × List Char) := do
    let (hours, r) ← twoDigits r
    let (minutes, r) ← twoDigits (r.dropWhile fun c => c = ':' || Text.isBlank c)
    if minutes < 60 ∧ hours < 24 then some (hours * 60 + minutes, r) else none

/-- Takes an offset of less than a day off. -/
def shift (t : Timestamp) (minutes : Int) : Timestamp :=
  let m : Int := t.hour * 60 + t.minute - minutes
  if m < 0 then
    { t with date := t.date.previous, hour := ((m + 1440) / 60).toNat, minute := (m % 60).toNat }
  else if m < 1440 then { t with hour := (m / 60).toNat, minute := (m % 60).toNat }
  else { t with date := t.date.next, hour := ((m - 1440) / 60).toNat, minute := (m % 60).toNat }

def read? (cs : List Char) : Option Timestamp := do
  let (year, cs) ← readYear cs
  let cs ← readMark '-' cs
  let (month, cs) ← readField 2 cs
  let cs ← readMark '-' cs
  let (day, cs) ← readField 2 cs
  let cs ← match cs with
    | 'T' :: r | 't' :: r | ' ' :: r => some r
    | _ => none
  let (hour, cs) ← readField 2 cs
  let cs ← readMark ':' cs
  let (minute, cs) ← readField 2 cs
  let cs ← readMark ':' cs
  let (second, cs) ← readField 2 cs
  let (nano, cs) ← readFraction cs
  let (offset, cs) ← readOffset (skipBlanks cs)
  let local_ : Timestamp := ⟨⟨year, month, day⟩, hour, minute, second, nano⟩
  let t := local_.shift offset
  if (skipBlanks cs).isEmpty && local_.isValid && t.isValid then some t else none

def ofText? (s : String) : Option Timestamp := read? s.toList

def decoder : Document.Decoder Timestamp :=
  Document.Decoder.refined fun s => match ofText? s with
    | some t => .ok t
    | none => .error "the text is not a time"

def toJson (t : Timestamp) : Json := .str t.toText

example : (ofText? "0000-01-01T00:00:00+01:00").map toText = some "-0001-12-31T23:00:00Z" := by
  decide +kernel
example : (ofText? " 2016-2-29t23:59:60.5 UTC").map toText = some "2016-02-29T23:59:60.500Z" := by
  decide +kernel

end Timestamp

end TrafficTrace
