/-! The form of a command line: commands with switches and operands, and commands within commands. -/
namespace TrafficTrace.CommandLine

/-- What a switch does. -/
inductive Role where
  | help
  | version
  /-- Holds or does not hold; given at most once. -/
  | flag
  /-- Counts how often it is given. -/
  | count
  /-- Takes one value and is given at most once. -/
  | single
  /-- Takes one value each time. -/
  | repeated
deriving DecidableEq, Repr

def Role.takesValue : Role → Bool
  | single | repeated => true
  | _ => false

/-- Why a value is not taken. -/
inductive Refusal where
  | empty
  | because (reason : String)
deriving DecidableEq, Repr

structure Switch where
  /-- The name under which the values are found. -/
  key : String
  short : Option Char
  long : String
  role : Role
  /-- The name of the value. -/
  value : String
  about : String
  /-- The value when the switch is not given. -/
  initial : Option String
  /-- The place among the switches of a description. -/
  order : Nat
  check : String → Option Refusal

namespace Switch

def label (s : Switch) : String :=
  "--" ++ s.long ++ (if s.role.takesValue then " <" ++ s.value ++ ">" else "") ++
    (if s.role = .count then "..." else "")

def flag (order : Nat) (long about : String) (short : Option Char) : Switch :=
  ⟨long, short, long, .flag, "", about, none, order, fun _ => none⟩

def single (order : Nat) (long value about : String) (short : Option Char)
    (check : String → Option Refusal) : Switch :=
  ⟨long, short, long, .single, value, about, none, order, check⟩

def repeated (order : Nat) (long value about : String) (check : String → Option Refusal) : Switch :=
  ⟨long, none, long, .repeated, value, about, none, order, check⟩

def help : Switch :=
  ⟨"help", some 'h', "help", .help, "", "Print help", none, 999, fun _ => none⟩

def version : Switch :=
  ⟨"version", some 'V', "version", .version, "", "Print version", none, 999, fun _ => none⟩

end Switch

/-- An argument that is known by its place. -/
structure Operand where
  name : String
  about : String
  required : Bool
  /-- Takes all arguments from its place on. -/
  many : Bool
deriving DecidableEq, Repr

def Operand.label (o : Operand) : String :=
  (if o.required then "<" ++ o.name ++ ">" else "[" ++ o.name ++ "]") ++ if o.many then "..." else ""

structure Command where
  name : String
  about : String
  switches : List Switch
  operands : List Operand
  commands : List Command
  /-- One of the commands within has to be given. -/
  needsCommand : Bool

namespace Command

/-- The command that describes the others. -/
def help : Command :=
  ⟨"help", "Print this message or the help of the given subcommand(s)", [],
    [⟨"COMMAND", "Print help for the subcommand(s)", false, true⟩], [], false⟩

def find? (c : Command) (name : String) : Option Command := c.commands.find? (·.name = name)

def long? (c : Command) (name : String) : Option Switch := c.switches.find? (·.long = name)

def short? (c : Command) (letter : Char) : Option Switch := c.switches.find? (·.short = some letter)

end Command

end TrafficTrace.CommandLine
