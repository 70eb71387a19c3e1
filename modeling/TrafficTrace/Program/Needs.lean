import TrafficTrace.Digest.Sha256
import TrafficTrace.Program.Run

/-! What a run needs to know of the machine before it begins: the paths at which it may look, whether it
reads its input, and random identifiers. -/
namespace TrafficTrace

namespace Program

/-- The file of events that the words name. -/
def eventsFile? (words : List String) : Option String :=
  match Invocation.read words with
  | .ok ⟨_, _, .upload a⟩ => some a.events
  | _ => none

def readsInput (words : List String) : Bool := eventsFile? words = some "-"

/-- Every path at which a run may look, apart from the directories around the first ones. -/
def places (words : List String) (home : Option FilePath) (directory : FilePath) : List FilePath :=
  let inWorkspace := Config.workspacePlaces ++ [Config.personalPlace]
  let events := ((eventsFile? words).map fun f => (FilePath.follow directory f).ancestors).getD []
  directory.ancestors.flatMap (fun d => inWorkspace.map (d ++ ·)) ++
    home.toList.map (· ++ Config.globalPlace) ++ events

/-- The random identifier with a number that a seed yields. -/
def freshFrom (seed : List UInt8) (n : Nat) : Uuid :=
  let hash := Digest.sha256 (seed ++ (Nat.toDigits 10 n).map fun c => UInt8.ofNat c.toNat)
  ((Uuid.ofBytes? (hash.take 16)).getD .nil).asRandom

example : (places ["upload", "s", "-e", "a/b"] none ["w"]).length = 14 ∧
    readsInput ["upload", "s"] := by
  decide +kernel

end Program

end TrafficTrace
