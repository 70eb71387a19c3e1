import TrafficTrace.CommandLine.Usage

/-! Reading a command line word by word. A switch is complete when the next switch or operand begins;
only then is its value looked at. -/
namespace TrafficTrace.CommandLine

/-- Why no command is carried out. -/
inductive Stop where
  | usage (e : UsageError)
  | version
  /-- A description, which was asked for or is given in place of a command. -/
  | description (text : String) (asked : Bool)
deriving DecidableEq, Repr

/-- What a word is by its form. -/
inductive Word where
  /-- Two hyphens: only operands follow. -/
  | divider
  | long (name : String) (value : Option String)
  | short (letters : List Char)
  | plain
deriving DecidableEq, Repr

def Word.of (text : String) : Word :=
  match text.toList with
  | ['-', '-'] => .divider
  | '-' :: '-' :: rest =>
    let name := rest.takeWhile (· ≠ '=')
    let value := match rest.drop name.length with
      | _ :: v => some (String.ofList v)
      | [] => none
    .long (String.ofList name) value
  | '-' :: c :: rest => .short (c :: rest)
  | _ => .plain

/-- The values given under each name. -/
abbrev Given := List (String × List String)

def Given.add (g : Given) (key value : String) : Given :=
  match g with
  | [] => [(key, [value])]
  | (k, vs) :: rest => if k = key then (k, vs ++ [value]) :: rest else (k, vs) :: add rest key value

/-- How far the words of one command are read. -/
structure Reading where
  given : Given
  /-- The latest switch that takes a value, and its value if it came. -/
  pending : Option (Switch × Option String)
  /-- How many operands are complete. -/
  operands : Nat
  /-- An operand takes all further words that are no switches. -/
  gathering : Bool
  /-- Only operands follow. -/
  divided : Bool

/-- The names of the commands within one another, and what was given to each, the outermost first. -/
structure Parsed where
  path : List String
  levels : List Given

namespace Parsed

/-- The values of a switch or operand. Of a switch that several commands share, those given to the
innermost count. -/
def values (p : Parsed) (key : String) : List String :=
  (p.levels.reverse.findSome? (·.lookup key)).getD []

def value? (p : Parsed) (key : String) : Option String := (p.values key).head?

def has (p : Parsed) (key : String) : Bool := !(p.values key).isEmpty

end Parsed

namespace Reading

def start : Reading := ⟨[], none, 0, false, false⟩

/-- Takes the value of a switch. -/
def record (r : Reading) (s : Switch) (value : String) : Except Stop Reading :=
  if s.role ∈ [.flag, .single] && (r.given.lookup s.key).isSome then
    .error (.usage (.repeatedSwitch s.label))
  else match s.check value with
    | some .empty => .error (.usage (.missingValue s.label))
    | some (.because reason) => .error (.usage (.invalidValue value s.label reason))
    | none => .ok { r with given := r.given.add s.key value }

/-- Completes the pending switch. -/
def settle (r : Reading) : Except Stop Reading :=
  match r.pending with
  | none => .ok r
  | some (s, none) => .error (.usage (.missingValue s.label))
  | some (s, some value) => { r with pending := none }.record s value

/-- A switch without a value. -/
def act (c : Command) (path : List String) (r : Reading) (s : Switch) : Except Stop Reading := do
  let r ← r.settle
  match s.role with
  | .help => throw (.description (c.describe path) true)
  | .version => throw .version
  | _ => r.record s ""

/-- A switch that takes a value, which may be joined to it. -/
def await (r : Reading) (s : Switch) (joined : Option String) : Except Stop Reading := do
  let r ← r.settle
  match joined with
  | some value => r.record s value
  | none => return { r with pending := some (s, none) }

def long (c : Command) (path : List String) (r : Reading) (name : String) (joined : Option String) :
    Except Stop Reading :=
  match c.long? name with
  | none => .error (.usage (.unknownArgument ("--" ++ name)))
  | some s =>
    if s.role.takesValue then r.await s joined
    else match joined with
      | some value => .error (.usage (.superfluousValue value s.label))
      | none => r.act c path s

/-- Letters after one hyphen. What follows the letter of a switch with a value is the value. -/
def short (c : Command) (path : List String) (r : Reading) : List Char → Except Stop Reading
  | [] => .ok r
  | letter :: rest =>
    match c.short? letter with
    | none => .error (.usage (.unknownArgument (String.ofList ['-', letter])))
    | some s =>
      if s.role.takesValue then
        r.await s (match rest with
          | [] => none
          | '=' :: v => some (String.ofList v)
          | v => some (String.ofList v))
      else do short c path (← r.act c path s) rest

def operand (c : Command) (r : Reading) (text : String) : Except Stop Reading :=
  match c.operands[r.operands]? with
  | some o => do
    let r ← r.settle
    let r := { r with given := r.given.add o.name text }
    return if o.many then { r with gathering := true } else { r with operands := r.operands + 1 }
  | none =>
    if c.commands.isEmpty || (r.divided && (c.find? text).isSome) then
      .error (.usage (.unknownArgument text))
    else .error (.usage (.unknownCommand text))

/-- A word that is no command. -/
def word (c : Command) (path : List String) (r : Reading) (text : String) : Except Stop Reading :=
  if r.divided then r.operand c text
  else match Word.of text with
    | .divider => .ok { r with divided := true }
    | .long name value => r.long c path name value
    | .short letters => r.short c path letters
    | .plain => match r.pending with
      | some (s, none) => .ok { r with pending := some (s, some text) }
      | _ => r.operand c text

/-- The command within that a word names, where one may stand. -/
def command? (c : Command) (r : Reading) (text : String) : Option Command :=
  let waiting := match r.pending with
    | some (_, none) => true
    | _ => false
  if r.divided || waiting || r.gathering then none else c.find? text

/-- The end of the words of a command; `inner` tells whether a command within was read. -/
def finish (c : Command) (path : List String) (r : Reading) (inner : Bool) : Except Stop Given := do
  let r ← r.settle
  if c.needsCommand && !inner then
    if r.given.isEmpty then throw (.description (c.describe path) false)
    throw (.usage (.missingCommand (" ".intercalate path)))
  let missing := c.operands.filter fun o => o.required && (r.given.lookup o.name).isNone
  if !missing.isEmpty then throw (.usage (.missingOperands (missing.map Operand.label)))
  return r.given

end Reading

/-- The description of the command that words lead to. -/
def describeAt (c : Command) (path : List String) : List String → Stop
  | [] => .description (c.describe path) true
  | w :: ws =>
    match c.find? w with
    | some d => describeAt d (path ++ [w]) ws
    | none => .usage (.unknownCommand w)

/-- Reads the words of a command that a path leads to. Problems within a command come before those that
are noticed at the end of the one around it. -/
def readFrom (c : Command) (path : List String) (r : Reading) : List String → Except Stop Parsed
  | [] => do return ⟨path, [← r.finish c path false]⟩
  | w :: ws =>
    match r.command? c w with
    | some d =>
      if d.name = Command.help.name then .error (describeAt c path ws)
      else do
        let inner ← readFrom d (path ++ [d.name]) .start ws
        return ⟨inner.path, (← r.finish c path true) :: inner.levels⟩
    | none => do readFrom c path (← r.word c path w) ws

def read (c : Command) (words : List String) : Except Stop Parsed := readFrom c [c.name] .start words

end TrafficTrace.CommandLine
