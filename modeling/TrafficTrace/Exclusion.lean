import TrafficTrace.Collector.Error
import TrafficTrace.Event

/-! Events that the user does not want: patterns for the host name and for the path. A pattern holds
when it occurs anywhere in the text. -/
namespace TrafficTrace

structure ExclusionRules where
  hosts : List Pattern.Expr
  paths : List Pattern.Expr

namespace ExclusionRules

def none : ExclusionRules := ⟨[], []⟩

def compileAll (field : ExclusionField) : List String → Except CollectorError (List Pattern.Expr)
  | [] => .ok []
  | p :: ps =>
    match Pattern.parse p with
    | .error fault => .error (.invalidPattern field p fault)
    | .ok e => (compileAll field ps).map (e :: ·)

/-- Host patterns are read before path patterns; the first fault is reported. -/
def compile (hosts paths : List String) : Except CollectorError ExclusionRules := do
  let hosts ← compileAll .host hosts
  let paths ← compileAll .path paths
  return ⟨hosts, paths⟩

def isEmpty (r : ExclusionRules) : Bool := r.hosts.isEmpty && r.paths.isEmpty

def excludesHost (r : ExclusionRules) (hostName : String) : Bool :=
  r.hosts.any (·.occursIn hostName.toList)

def excludesPath (r : ExclusionRules) (path : String) : Bool :=
  r.paths.any (·.occursIn path.toList)

def excludes (r : ExclusionRules) (e : Event) : Bool :=
  r.excludesHost e.hostName || r.excludesPath e.path

end ExclusionRules

end TrafficTrace
