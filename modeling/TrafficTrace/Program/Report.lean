import TrafficTrace.Fault
import TrafficTrace.Text.Blank

/-! Errors as the program reports them: what failed, and below it what caused that. -/
namespace TrafficTrace

structure Cause where
  message : String
  /-- The text of a reader with which the message ends. -/
  detail : Option Detail
deriving DecidableEq, Repr

/-- An error and its causes, each one caused by the next. -/
structure Report where
  top : Cause
  causes : List Cause
deriving DecidableEq, Repr

namespace Fault

/-- What an error wraps, from the outside in. A pattern's own fault is the last cause of its error. -/
def causes : Fault → List Cause
  | mk _ _ _ (some source) => ⟨source.message, source.detail⟩ :: source.causes
  | mk _ _ (some (.pattern text)) none => [⟨text, some (.pattern text)⟩]
  | mk _ _ _ none => []

end Fault

namespace Report

def ofFault (f : Fault) : Report := ⟨⟨f.message, f.detail⟩, f.causes⟩

def plain (message : String) : Report := ⟨⟨message, none⟩, []⟩

/-- The error as the cause of a failure. -/
def within (r : Report) (message : String) : Report := ⟨⟨message, none⟩, r.top :: r.causes⟩

/-- Lines after the first are indented. -/
def indented (lead : String) (indent : Nat) (message : String) : String :=
  let lines := (Text.pieces (· = '\n') message.toList).map String.ofList
  lead ++ ("\n" ++ String.ofList (List.replicate indent ' ')).intercalate lines

/-- Causes are numbered if there are several. -/
def toText (r : Report) : String :=
  let cause (p : Cause × Nat) : String :=
    if r.causes.length = 1 then indented "    " 4 p.1.message
    else
      let number := toString p.2
      let lead := String.ofList (List.replicate (5 - number.length) ' ') ++ number ++ ": "
      indented lead 7 p.1.message
  "Error: " ++ r.top.message ++
    if r.causes.isEmpty then ""
    else "\n\nCaused by:\n" ++ "\n".intercalate (r.causes.zipIdx.map cause)

example : ((plain "c").within "b").toText = "Error: b\n\nCaused by:\n    c" ∧
    (((plain "c").within "b").within "a").toText =
      "Error: a\n\nCaused by:\n    0: b\n    1: c" := by decide +kernel

end Report

end TrafficTrace
