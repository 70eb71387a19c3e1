import TrafficTrace.CommandLine.Basic

/-! Descriptions of commands, and what can be wrong with a command line. -/
namespace TrafficTrace.CommandLine

inductive UsageError where
  | unknownArgument (text : String)
  | unknownCommand (text : String)
  | missingValue (label : String)
  | invalidValue (value label reason : String)
  | superfluousValue (value label : String)
  | repeatedSwitch (label : String)
  | missingOperands (labels : List String)
  | missingCommand (program : String)
deriving DecidableEq, Repr

namespace UsageError

def quoted (s : String) : String := "'" ++ s ++ "'"

def message : UsageError → String
  | unknownArgument text => "unexpected argument " ++ quoted text ++ " found"
  | unknownCommand text => "unrecognized subcommand " ++ quoted text
  | missingValue label => "a value is required for " ++ quoted label ++ " but none was supplied"
  | invalidValue value label reason =>
    "invalid value " ++ quoted value ++ " for " ++ quoted label ++ ": " ++ reason
  | superfluousValue value label =>
    "unexpected value " ++ quoted value ++ " for " ++ quoted label ++ " found; no more were expected"
  | repeatedSwitch label => "the argument " ++ quoted label ++ " cannot be used multiple times"
  | missingOperands labels =>
    "the following required arguments were not provided:" ++ String.join (labels.map ("\n  " ++ ·))
  | missingCommand program => quoted program ++ " requires a subcommand but one was not provided"

/-- The message with a pointer to the description. -/
def toText (e : UsageError) : String :=
  "error: " ++ e.message ++ "\n\nFor more information, try '--help'.\n"

end UsageError

/-! A description has one row for each command, operand and switch. The text of a row stands beside its
label, or below all labels if one of the texts would not fit. -/

def width : Nat := 100

def blanks (n : Nat) : String := String.ofList (List.replicate n ' ')

/-- A row of a description: what stands before the label, the label and the text. -/
structure Row where
  lead : String
  label : String
  text : String

/-- Whether a text is too long to stand beside labels of a width. -/
def Row.overflows (labelWidth : Nat) (r : Row) : Bool :=
  let taken := labelWidth + 12
  taken ≤ width && 40 * width < 100 * taken && width - taken < r.text.length

/-- Rows under a title. Two blanks separate the longest label from its text. -/
def layout (title : String) (rows : List Row) : String :=
  let labelWidth := rows.foldl (fun n r => max n r.label.length) 2
  let below := rows.any (Row.overflows labelWidth)
  let row (r : Row) : String :=
    "  " ++ r.lead ++ r.label ++
      (if below then "\n" ++ blanks 10 else blanks (labelWidth + 2 - r.label.length)) ++ r.text
  title ++ ":\n" ++ "\n".intercalate (rows.map row)

/-- Switches come by their place, then by their letter or name. -/
def Switch.precedes (a b : Switch) : Bool :=
  let key (s : Switch) : String := match s.short with
    | some c => String.ofList [c.toLower, if c.isLower then '0' else '1']
    | none => s.long
  a.order < b.order || (a.order = b.order && key a ≤ key b)

def Switch.row (s : Switch) : Row where
  lead := match s.short with
    | some c => String.ofList ['-', c, ',', ' ']
    | none => "    "
  label := s.label
  text := match s.initial with
    | some value => s.about ++ " [default: " ++ value ++ "]"
    | none => s.about

def Command.usage (c : Command) (path : List String) : String :=
  let options := if c.switches.any (·.role matches .flag | .count | .single | .repeated) then
    ["[OPTIONS]"] else []
  let within := if c.commands.isEmpty then []
    else if c.needsCommand then ["<COMMAND>"] else ["[COMMAND]"]
  " ".intercalate (path ++ options ++ c.operands.map Operand.label ++ within)

/-- The description of the command that a path of names leads to. -/
def Command.describe (c : Command) (path : List String) : String :=
  let section_ (title : String) (rows : List Row) : List String :=
    if rows.isEmpty then [] else [layout title rows]
  "\n\n".intercalate ([c.about, "Usage: " ++ c.usage path] ++
    section_ "Commands" (c.commands.map fun d => ⟨"", d.name, d.about⟩) ++
    section_ "Arguments" (c.operands.map fun o => ⟨"", o.label, o.about⟩) ++
    section_ "Options" ((c.switches.mergeSort Switch.precedes).map Switch.row)) ++ "\n"

end TrafficTrace.CommandLine
