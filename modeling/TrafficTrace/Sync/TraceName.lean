import TrafficTrace.Uuid

/-! Made-up names of traces: an adjective, a noun and a number of four digits. -/
namespace TrafficTrace.TraceName

def adjectives : List String := [
  "amber", "brave", "calm", "clever", "crisp", "dapper", "eager", "fuzzy", "gentle", "glad",
  "hazy", "jolly", "keen", "lively", "lucky", "mellow", "nimble", "plucky", "quiet", "rapid",
  "rustic", "shiny", "snappy", "steady", "sunny", "swift", "tidy", "vivid", "witty", "zesty"]

def nouns : List String := [
  "badger", "beagle", "bison", "crane", "falcon", "ferret", "gecko", "heron", "ibis", "jackal",
  "koala", "lemur", "lynx", "marten", "moose", "newt", "otter", "panda", "quokka", "raven",
  "robin", "salmon", "tapir", "toucan", "turtle", "vole", "walrus", "wombat", "yak", "zebra"]

/-- A number with zeros in front up to four digits. -/
def fourDigits (n : Nat) : String :=
  let digits := toString n
  String.ofList (List.replicate (4 - digits.length) '0') ++ digits

def pick (words : List String) (b : UInt8) : String := words.getD (b.toNat % words.length) ""

/-- The name that random bytes choose; the third and the fourth byte, low byte first, give the
number. -/
def ofBytes (u : Uuid) : String :=
  match u.bytes with
  | a :: n :: low :: high :: _ =>
    pick adjectives a ++ "-" ++ pick nouns n ++ "-" ++
      fourDigits ((low.toNat + 256 * high.toNat) % 10000)
  | _ => ""

example : ofBytes (.fill 7) = "fuzzy-heron-1799" := by decide +kernel

end TrafficTrace.TraceName
