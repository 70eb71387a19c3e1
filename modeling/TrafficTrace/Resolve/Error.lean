import TrafficTrace.Transport.Error

/-! What can go wrong when a name is looked up. -/
namespace TrafficTrace

/-- What a looked-up name can stand for. -/
inductive NameKind where
  | service
  | trace
deriving DecidableEq, Repr

def NameKind.word : NameKind → String
  | service => "service"
  | trace => "trace"

inductive ResolveError where
  | notFound (kind : NameKind) (name : String)
  | backend (kind : NameKind) (name : String) (source : TransportError)
deriving DecidableEq, Repr

namespace ResolveError

def message : ResolveError → String
  | notFound kind name => "No " ++ kind.word ++ " named " ++ Text.quote name ++ " was found"
  | backend kind name source =>
    "Failed to look up " ++ kind.word ++ " " ++ Text.quote name ++ ": " ++ source.message

def fault : ResolveError → Fault
  | notFound kind name => .plain "NotFound" (notFound kind name).message
  | backend kind name source => .wrapping "Backend" (backend kind name source).message source.fault

def isNotFound : ResolveError → Bool
  | notFound _ _ => true
  | backend _ _ _ => false

end ResolveError

end TrafficTrace
