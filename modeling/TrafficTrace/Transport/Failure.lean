import TrafficTrace.Transport.Error

/-! Reports of failed calls. At most one receiver is registered, and the first one stays. -/
namespace TrafficTrace

/-- A failed call as it is reported. -/
structure FailureReport where
  method : String
  path : String
  error : TransportError
deriving DecidableEq, Repr

/-- `ρ` names the receivers. -/
structure FailureReporter (ρ : Type) where
  receiver : Option ρ
deriving DecidableEq, Repr

namespace FailureReporter

variable {ρ : Type}

def empty : FailureReporter ρ := ⟨none⟩

def isRegistered (r : FailureReporter ρ) : Bool := r.receiver.isSome

/-- Whether the registration took effect, and the reporter after it. -/
def register (r : FailureReporter ρ) (receiver : ρ) : Bool × FailureReporter ρ :=
  match r.receiver with
  | some _ => (false, r)
  | none => (true, ⟨some receiver⟩)

/-- What the receiver is given, if there is one. -/
def report (r : FailureReporter ρ) (failure : FailureReport) : List (ρ × FailureReport) :=
  match r.receiver with
  | some receiver => [(receiver, failure)]
  | none => []

def describe (r : FailureReporter ρ) : String :=
  "FailureReporter \x7b registered: " ++ (if r.isRegistered then "true" else "false") ++ " \x7d"

end FailureReporter

end TrafficTrace
