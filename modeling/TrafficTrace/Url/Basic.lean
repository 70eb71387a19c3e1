import TrafficTrace.Url.Host

/-! Addresses in their parts, and their text. -/
namespace TrafficTrace

namespace Url

/-- The segments between slashes, or a text after a scheme that has no segments. -/
inductive Path where
  | segments (parts : List String)
  | bare (text : String)
deriving DecidableEq, Repr

def Path.toText : Path → String
  | segments parts => String.join (parts.map ("/" ++ ·))
  | bare text => text

/-- The port that a well known scheme uses unless another one is named. -/
def defaultPort? (scheme : String) : Option Nat :=
  [("http", 80), ("https", 443), ("ws", 80), ("wss", 443), ("ftp", 21)].lookup scheme

def isSpecial (scheme : String) : Bool := scheme = "file" || (defaultPort? scheme).isSome

end Url

structure Url where
  scheme : String
  username : String
  password : Option String
  /-- None for an address without an authority. -/
  host : Option Url.Host
  /-- None for the default of the scheme. -/
  port : Option Nat
  path : Url.Path
  query : Option String
  fragment : Option String
deriving DecidableEq, Repr

namespace Url

/-- User, host and port. -/
def authority (u : Url) : String :=
  let user := u.username ++ match u.password with
    | some p => ":" ++ p
    | none => ""
  let port := match u.port with
    | some n => ":" ++ toString n
    | none => ""
  (if user = "" then "" else user ++ "@") ++ (u.host.map Host.toText).getD "" ++ port

def toText (u : Url) : String :=
  let top := match u.host, u.path with
    | some _, _ => "//" ++ u.authority
    | none, .segments ("" :: _ :: _) => "/."
    | none, _ => ""
  let part (mark : String) : Option String → String
    | some s => mark ++ s
    | none => ""
  u.scheme ++ ":" ++ top ++ u.path.toText ++ part "?" u.query ++ part "#" u.fragment

/-- The address with a path that ends in a slash, so that names can follow it. -/
def asDirectory (u : Url) : Url :=
  match u.path with
  | .segments parts =>
    if parts.getLast? = some "" then u else { u with path := .segments (parts ++ [""]) }
  | .bare _ => u

def withoutUser (u : Url) : Url := { u with username := "", password := none }

end Url

end TrafficTrace
