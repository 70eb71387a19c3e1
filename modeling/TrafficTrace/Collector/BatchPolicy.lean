import TrafficTrace.Time.Duration

/-! When buffered events are sent: by number, or by the age of the oldest. -/
namespace TrafficTrace

open Document

structure BatchPolicy where
  maxSize : Nat
  maxAge : Duration
deriving DecidableEq, Repr

namespace BatchPolicy

def standard : BatchPolicy := ⟨64, .ofSecs 5⟩

/-- A batch holds at least one event. -/
def normal (p : BatchPolicy) : BatchPolicy := { p with maxSize := max p.maxSize 1 }

/-- The time between two looks at the age while no event arrives. -/
def tickInterval (p : BatchPolicy) : Duration := max (p.maxAge.div 2) (.ofMillis 1)

def record : Record BatchPolicy :=
  (fun size age => mk size (.ofMillis age)) <$> Record.required "maxBatchSize" Decoder.nat64
    <*> Record.required "maxBatchAge" Decoder.nat64

def toJson (p : BatchPolicy) : Json :=
  .obj [("maxBatchSize", .ofNat p.maxSize), ("maxBatchAge", .ofNat (p.maxAge.millis % UInt64.size))]

end BatchPolicy

end TrafficTrace
