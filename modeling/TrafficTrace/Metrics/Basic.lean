import TrafficTrace.Keyed
import TrafficTrace.Metrics.Histogram

/-!
Counters of calls, of other timed operations and of events. Calls and runs are counted one by one,
so those counts have no bound here. Events are added in numbers that may be any word, so their
counts wrap at 64 bits. A total that would pass the longest duration stops there.
-/
namespace TrafficTrace

open Number

/-- The mean of `count` durations. The division takes the count in 32 bits and is impossible when
that leaves nothing. -/
def average? (total : Duration) (count : Nat) : Option Duration :=
  if count = 0 then some .zero
  else if count % UInt32.size = 0 then none
  else some (total.div (count % UInt32.size))

/-- Calls of one kind. -/
structure CallMetrics where
  calls : Nat
  successes : Nat
  failures : Nat
  total : Duration
  longest : Duration
  histogram : Histogram
deriving DecidableEq, Repr

namespace CallMetrics

def empty : CallMetrics := ⟨0, 0, 0, .zero, .zero, .standard⟩

def record (m : CallMetrics) (d : Duration) (ok : Bool) : CallMetrics where
  calls := m.calls + 1
  successes := m.successes + if ok then 1 else 0
  failures := m.failures + if ok then 0 else 1
  total := m.total.add d
  longest := max m.longest d
  histogram := m.histogram.record d

def average (m : CallMetrics) : Duration := (average? m.total m.calls).getD .zero

/-- From 0 to 1; one without any call. -/
def successRate (m : CallMetrics) : Binary64 :=
  (if m.calls = 0 then Binary64.ofNat? 1 else Binary64.ofRatio? false m.successes m.calls).getD
    (.zero false)

end CallMetrics

/-- Runs of one operation. -/
structure OperationMetrics where
  count : Nat
  total : Duration
  shortest : Duration
  longest : Duration
  histogram : Histogram
deriving DecidableEq, Repr

namespace OperationMetrics

def empty : OperationMetrics := ⟨0, .zero, .longest, .zero, .standard⟩

def record (m : OperationMetrics) (d : Duration) : OperationMetrics where
  count := m.count + 1
  total := m.total.add d
  shortest := min m.shortest d
  longest := max m.longest d
  histogram := m.histogram.record d

def average (m : OperationMetrics) : Duration := (average? m.total m.count).getD .zero

end OperationMetrics

structure Metrics where
  calls : List (String × CallMetrics)
  operations : List (String × OperationMetrics)
  submitted : Nat
  dropped : Nat
deriving DecidableEq, Repr

namespace Metrics

def empty : Metrics := ⟨[], [], 0, 0⟩

instance : Inhabited Metrics := ⟨empty⟩

def recordCall (m : Metrics) (operation : String) (d : Duration) (ok : Bool) : Metrics :=
  { m with calls := Keyed.update operation .empty (·.record d ok) m.calls }

def recordOperation (m : Metrics) (name : String) (d : Duration) : Metrics :=
  { m with operations := Keyed.update name .empty (·.record d) m.operations }

def recordEvents (m : Metrics) (submitted dropped : Nat) : Metrics :=
  { m with
    submitted := (m.submitted + submitted) % UInt64.size
    dropped := (m.dropped + dropped) % UInt64.size }

def call? (m : Metrics) (operation : String) : Option CallMetrics := m.calls.lookup operation
def operation? (m : Metrics) (name : String) : Option OperationMetrics := m.operations.lookup name

end Metrics

end TrafficTrace
