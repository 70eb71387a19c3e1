/-! Errors as they are shown. -/
namespace TrafficTrace

/-- The text of a reader with which a message ends. -/
inductive Detail where
  /-- What is wrong with a document. -/
  | document (text : String)
  /-- What is wrong with a pattern. -/
  | pattern (text : String)
deriving DecidableEq, Repr

/-- The kind of an error, its message, and the error that it wraps. -/
inductive Fault where
  | mk (kind message : String) (detail : Option Detail) (source : Option Fault)

namespace Fault

def kind : Fault → String
  | mk k _ _ _ => k

def message : Fault → String
  | mk _ m _ _ => m

def detail : Fault → Option Detail
  | mk _ _ d _ => d

def source : Fault → Option Fault
  | mk _ _ _ s => s

/-- An error that wraps no other. -/
def plain (kind message : String) : Fault := mk kind message none none

/-- An error whose message ends with that of the error it wraps. -/
def wrapping (kind message : String) (source : Fault) : Fault :=
  mk kind message source.detail (some source)

end Fault

end TrafficTrace
