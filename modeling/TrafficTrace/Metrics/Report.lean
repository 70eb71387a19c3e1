import TrafficTrace.Metrics.Basic

/-! The report on the metrics, with durations in their natural unit. -/
namespace TrafficTrace

open Number

/-- The quotient with a number of decimal places; a half goes to the even neighbour. -/
def writeFixed (places num den : Nat) : String :=
  let n := roundQuotient (num * Nat.pow 10 places) den
  let fraction := toString (n % Nat.pow 10 places)
  toString (n / Nat.pow 10 places) ++ "." ++
    String.ofList (List.replicate (places - fraction.length) '0') ++ fraction

/-- Two decimal places in the largest unit that does not exceed the duration. -/
def Duration.display (d : Duration) : String :=
  let n := d.nanos
  if 1000000000 ≤ n then writeFixed 2 n 1000000000 ++ "s"
  else if 1000000 ≤ n then writeFixed 2 n 1000000 ++ "ms"
  else if 1000 ≤ n then writeFixed 2 n 1000 ++ "µs"
  else writeFixed 2 n 1 ++ "ns"

example : (Duration.ofNanos 1005).display = "1.00µs" ∧
    (Duration.ofNanos 999995).display = "1000.00µs" := by decide +kernel

/-- A part of a whole in per cent with one decimal place. -/
def percent (x : Binary64) : String :=
  match (Binary64.ofNat? 100).bind x.mul? with
  | some y => writeFixed 1 y.num y.den
  | none => ""

namespace Metrics

def callLine (name : String) (m : CallMetrics) : String :=
  "  " ++ name ++ ": " ++ toString m.calls ++ " calls, " ++ percent m.successRate ++ "% ok, avg " ++
    m.average.display ++ ", p99 <= " ++ m.histogram.p99.display ++ "\n"

def operationLine (name : String) (m : OperationMetrics) : String :=
  "  " ++ name ++ ": " ++ toString m.count ++ " runs, avg " ++ m.average.display ++ ", max " ++
    m.longest.display ++ "\n"

/-- Everything after the line on the running time. -/
def reportBody (m : Metrics) : String :=
  "Events: " ++ toString m.submitted ++ " submitted, " ++ toString m.dropped ++ " dropped\n" ++
    (if m.calls.isEmpty then ""
      else "\nAPI calls:\n" ++ String.join (m.calls.map fun (k, c) => callLine k c)) ++
    (if m.operations.isEmpty then ""
      else "\nOperations:\n" ++ String.join (m.operations.map fun (k, o) => operationLine k o))

def report (m : Metrics) (uptime : Duration) : String :=
  "Uptime: " ++ uptime.display ++ "\n" ++ m.reportBody

end Metrics

end TrafficTrace
