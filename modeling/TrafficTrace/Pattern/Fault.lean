/-! What can be wrong with a pattern. -/
namespace TrafficTrace.Pattern

inductive Fault where
  | unclosedGroup
  | unopenedGroup
  | unclosedClass
  | badClassItem
  | badRange
  | badEscape
  | badProperty
  | badFlags
  | badGroupName
  | lookaround
  | missingRepeated
  | badRepetition
  | notUnicode
  | tooDeep
  | tooLarge
deriving DecidableEq, Repr

namespace Fault

def reason : Fault → String
  | unclosedGroup => "unclosed group"
  | unopenedGroup => "unopened group"
  | unclosedClass => "unclosed character class"
  | badClassItem => "not allowed in a character class"
  | badRange => "invalid character range"
  | badEscape => "unknown or incomplete escape"
  | badProperty => "unknown character property"
  | badFlags => "invalid flags"
  | badGroupName => "invalid or repeated group name"
  | lookaround => "look-around is not supported"
  | missingRepeated => "nothing to repeat"
  | badRepetition => "invalid repetition count"
  | notUnicode => "may match invalid text"
  | tooDeep => "nested too deeply"
  | tooLarge => "too large when compiled"

def message (f : Fault) : String := "regex: " ++ f.reason

end Fault

end TrafficTrace.Pattern
