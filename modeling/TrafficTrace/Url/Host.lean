import TrafficTrace.Url.DomainName
import TrafficTrace.Url.Percent

/-! Hosts: names, and addresses of both versions. -/
namespace TrafficTrace

/-- Why a text is no address. -/
inductive UrlError where
  | emptyHost
  | invalidName
  | invalidPort
  | invalidIpv4
  | invalidIpv6
  | invalidHostCharacter
  | relativeWithoutBase
  | relativeToBare
deriving DecidableEq, Repr

def UrlError.message : UrlError → String
  | emptyHost => "empty host"
  | invalidName => "invalid international domain name"
  | invalidPort => "invalid port number"
  | invalidIpv4 => "invalid IPv4 address"
  | invalidIpv6 => "invalid IPv6 address"
  | invalidHostCharacter => "invalid domain character"
  | relativeWithoutBase => "relative URL without a base"
  | relativeToBare => "relative URL with a cannot-be-a-base base"

namespace Url

inductive Host where
  | name (text : String)
  | ipv4 (address : Nat)
  | ipv6 (groups : List Nat)
deriving DecidableEq, Repr

namespace Host

def ipv4Text (n : Nat) : String :=
  ".".intercalate ([n / 16777216, n / 65536 % 256, n / 256 % 256, n % 256].map toString)

/-- How many zeros a list begins with. -/
def zeros (gs : List Nat) : Nat := (gs.takeWhile (· = 0)).length

/-- The first of the longest runs of zeros: where it begins, and its length. -/
def longestZeros (place : Nat) : List Nat → Nat × Nat
  | [] => (place, 0)
  | g :: gs =>
    let (start, count) := longestZeros (place + 1) gs
    let here := zeros (g :: gs)
    if count ≤ here then (place, here) else (start, count)

def ipv6Text (gs : List Nat) : String :=
  let part (gs : List Nat) := ":".intercalate (gs.map Text.hexOfNat)
  let (start, count) := longestZeros 0 gs
  if count < 2 then part gs else part (gs.take start) ++ "::" ++ part (gs.drop (start + count))

def toText : Host → String
  | name text => text
  | ipv4 address => ipv4Text address
  | ipv6 groups => "[" ++ ipv6Text groups ++ "]"

def digitsIn (base : Nat) (cs : List Char) : Option Nat :=
  cs.foldl (fun acc c => do
    let n ← acc
    let d ← Text.hexValue? c
    if d < base then some (n * base + d) else none) (some 0)

/-- A number of an address: decimal, octal after a zero, hexadecimal after `0x`. -/
def ipv4Number? : List Char → Option Nat
  | [] => none
  | '0' :: 'x' :: cs | '0' :: 'X' :: cs => digitsIn 16 cs
  | '0' :: c :: cs => digitsIn 8 (c :: cs)
  | cs => digitsIn 10 cs

/-- The labels without an empty one at the end. -/
def labels (cs : List Char) : List (List Char) :=
  let ls := Text.pieces (· = '.') cs
  if ls.length > 1 && ls.getLast? == some [] then ls.dropLast else ls

/-- A host whose last label is a number is an address. -/
def endsInNumber (cs : List Char) : Bool :=
  match (labels cs).getLast? with
  | some l => (!l.isEmpty && l.all fun c => '0' ≤ c && c ≤ '9') || (ipv4Number? l).isSome
  | none => false

/-- Up to four numbers; the last one fills the bytes that the others leave. -/
def ipv4? (cs : List Char) : Option Nat := do
  let ls := labels cs
  if ls.length > 4 then none
  let ns ← ls.mapM ipv4Number?
  let last ← ns.getLast?
  let others := ns.dropLast
  if last ≥ Nat.pow 256 (4 - others.length) || others.any (255 < ·) then none
  return others.zipIdx.foldl (fun sum (n, i) => sum + n * Nat.pow 256 (3 - i)) last

/-- Four decimal numbers without superfluous zeros. -/
def dotted? (cs : List Char) : Option Nat := do
  let parts := Text.pieces (· = '.') cs
  if parts.length ≠ 4 then none
  parts.foldlM (fun n p => do
    if p.isEmpty || p.length > 3 || (p.length > 1 && p.head? == some '0') then none
    let d ← digitsIn 10 p
    if d > 255 then none else some (n * 256 + d)) 0

/-- Groups between colons; the last one may be a dotted address, which counts as two. -/
def groups? (cs : List Char) : Option (List Nat) :=
  if cs.isEmpty then some []
  else
    let ps := Text.pieces (· = ':') cs
    let group (p : List Char) (i : Nat) : Option (List Nat) :=
      if p.contains '.' then
        if i + 1 = ps.length then (dotted? p).map fun n => [n / 65536, n % 65536] else none
      else if p.isEmpty || p.length > 4 then none
      else (digitsIn 16 p).map fun n => [n]
    (ps.zipIdx.mapM fun (p, i) => group p i).map List.flatten

/-- The parts before and after the first two colons in a row. -/
def splitColons : List Char → Option (List Char × List Char)
  | ':' :: ':' :: rest => some ([], rest)
  | c :: rest => (splitColons rest).map fun (a, b) => (c :: a, b)
  | [] => none

/-- Eight groups, of which two colons in a row leave out at least one. -/
def ipv6? (cs : List Char) : Option (List Nat) := do
  match splitColons cs with
  | none =>
    let gs ← groups? cs
    if gs.length = 8 then some gs else none
  | some (a, b) =>
    if a.contains '.' then none
    let (xs, ys) := (← groups? a, ← groups? b)
    let count := xs.length + ys.length
    if count > 7 then none
    return xs ++ List.replicate (8 - count) 0 ++ ys

/-- The characters of a host of a scheme that is not well known. -/
def forbiddenBare (c : Char) : Bool :=
  c.toNat = 0 || c ∈ "\t\n\r #/:<>?@[\\]^|".toList

/-- A host of a well known scheme. -/
def read (cs : List Char) : Except UrlError Host :=
  match cs with
  | '[' :: rest =>
    if rest.getLast? ≠ some ']' then .error .invalidIpv6
    else match ipv6? rest.dropLast with
      | some gs => .ok (.ipv6 gs)
      | none => .error .invalidIpv6
  | cs => do
    let text := Text.ofUtf8Lossy (percentDecode (Text.utf8 cs))
    match DomainName.toAscii? text.toList with
    | none => .error .invalidName
    | some [] => .error .emptyHost
    | some ascii =>
      if endsInNumber ascii then
        match ipv4? ascii with
        | some n => .ok (.ipv4 n)
        | none => .error .invalidIpv4
      else .ok (.name (String.ofList ascii))

/-- A host of any other scheme. -/
def readBare (cs : List Char) : Except UrlError Host :=
  match cs with
  | '[' :: _ => read cs
  | cs =>
    if cs.any forbiddenBare then .error .invalidHostCharacter
    else .ok (.name (String.ofList (percentEncode (fun n => 32 ≤ n && n ≤ 126) cs)))

example : (read "0x7f.1".toList).toOption.map toText = some "127.0.0.1" ∧
    (read "[1:0::0:2]".toList).toOption.map toText = some "[1::2]" := by decide +kernel

end Host

end Url

end TrafficTrace
