/-! How much is logged and in which form. -/
namespace TrafficTrace

inductive LogLevel where
  | error
  | warn
  | info
  | debug
  | trace
deriving DecidableEq, Repr

def LogLevel.name : LogLevel → String
  | error => "ERROR"
  | warn => "WARN"
  | info => "INFO"
  | debug => "DEBUG"
  | trace => "TRACE"

def LogLevel.all : List LogLevel := [.error, .warn, .info, .debug, .trace]

structure LogSettings where
  level : LogLevel
  /-- Whether the start and the end of an operation are logged. -/
  spanEvents : Bool
  fileLine : Bool
  target : Bool
  compact : Bool
  /-- A filter that comes before the level. -/
  filter : Option String
deriving DecidableEq, Repr

namespace LogSettings

/-- For a number of requests for more detail. -/
def forVerbosity (verbose : Nat) : LogSettings where
  level :=
    match verbose with
    | 0 => .warn
    | 1 => .info
    | 2 => .debug
    | _ => .trace
  spanEvents := 3 ≤ verbose
  fileLine := 3 ≤ verbose
  target := 2 ≤ verbose
  compact := true
  filter := none

/-- For a program that runs in the background. -/
def daemon : LogSettings := ⟨.info, false, false, true, false, none⟩

def withLevel (s : LogSettings) (level : LogLevel) : LogSettings := { s with level := level }
def withFilter (s : LogSettings) (filter : String) : LogSettings := { s with filter := some filter }

end LogSettings

end TrafficTrace
