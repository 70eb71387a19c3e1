import TrafficTrace.Text.CharSet

/-! Tables that give every character a label, in runs of neighbours with the same label. -/
namespace TrafficTrace.Text

structure Run where
  first : Nat
  last : Nat
  label : String
deriving Repr

structure RunTable where
  runs : Array Run

namespace RunTable

/-- Reads runs that follow one another: a label, which is a capital letter with small letters after
it, and the number of characters when there is more than one. The label under way is reversed. -/
def readRuns : List Char → (start count : Nat) → (label : List Char) → List Run
  | [], start, count, label => [⟨start, start + max count 1 - 1, String.ofList label.reverse⟩]
  | c :: cs, start, count, label =>
    if c.isDigit then readRuns cs start (count * 10 + (c.toNat - 48)) label
    else if c.isLower || label.isEmpty then readRuns cs start count (c :: label)
    else
      ⟨start, start + max count 1 - 1, String.ofList label.reverse⟩ ::
        readRuns cs (start + max count 1) 0 [c]

def ofLines (lines : List String) : RunTable :=
  ⟨(readRuns (String.join lines).toList 0 0 []).toArray⟩

/-- The place of the last run that starts at or before `n`, by halving the `size` runs from `low`
on. -/
def find (t : RunTable) (n : Nat) : (fuel low size : Nat) → Nat
  | 0, low, _ => low
  | fuel + 1, low, size =>
    if size ≤ 1 then low
    else
      let half := size / 2
      match t.runs[low + half]? with
      | some r => if r.first ≤ n then t.find n fuel (low + half) (size - half)
        else t.find n fuel low half
      | none => low

/-- The label of a code point. -/
def label (t : RunTable) (n : Nat) : String :=
  ((t.runs[t.find n 32 0 t.runs.size]?).map (·.label)).getD ""

/-- The characters with the labels that satisfy `p`. -/
def members (t : RunTable) (p : String → Bool) : CharSet :=
  CharSet.ofSorted ((t.runs.toList.filter (p ·.label)).map fun r => (r.first, r.last))

example : ((ofLines ["A2Bc", "A10"]).runs.toList.map fun r => (r.first, r.last, r.label)) =
    [(0, 1, "A"), (2, 2, "Bc"), (3, 12, "A")] := by decide +kernel

end RunTable

end TrafficTrace.Text
