import TrafficTrace.Number.Binary64
import TrafficTrace.Time.Duration

/-! Histograms of durations: one count for each bound in milliseconds, and one for all above. -/
namespace TrafficTrace

open Number

structure Histogram where
  bounds : List Nat
  counts : List Nat
deriving DecidableEq, Repr

namespace Histogram

def withBounds (bounds : List Nat) : Histogram := ⟨bounds, List.replicate (bounds.length + 1) 0⟩

/-- Bounds that suit network calls, long polls among them. -/
def standard : Histogram := withBounds [10, 50, 100, 250, 500, 1000, 5000, 30000, 120000]

/-- The place of the first bound that the milliseconds do not exceed, or the place after the last. -/
def bucketOf (bounds : List Nat) (millis : Nat) : Nat :=
  bounds.findIdx fun b => millis ≤ b

/-- Whole milliseconds in 64 bits. -/
def sample (d : Duration) : Nat := d.millis % UInt64.size

def record (h : Histogram) (d : Duration) : Histogram :=
  { h with counts := h.counts.modify (bucketOf h.bounds (sample d)) (· + 1) }

def total (h : Histogram) : Nat := h.counts.foldr (· + ·) 0

/-- The upper bound of a bucket; twice the last bound for the bucket above it. -/
def boundAt (bounds : List Nat) (place : Nat) : Nat :=
  match bounds[place]? with
  | some b => b
  | none => bounds.getLast?.getD 0 * 2

/-- The place of the first bucket up to which at least `rank` samples are counted. -/
def placeOfRank (rank : Nat) : (place seen : Nat) → List Nat → Option Nat
  | _, _, [] => none
  | place, seen, c :: cs =>
    if rank ≤ seen + c then some place else placeOfRank rank (place + 1) (seen + c) cs

/-- The bound, in milliseconds, at which the sample of the given rank is counted. -/
def boundOfRank (h : Histogram) (rank : Nat) : Option Nat :=
  (placeOfRank rank 0 0 h.counts).map (boundAt h.bounds)

/-- The rank of a percentile in floating point, rounded up and kept in 64 bits. None when it is
beyond all numbers. -/
def rankOf? (total : Nat) (p : Binary64) : Option Nat := do
  let t ← Binary64.ofNat? total
  let x ← t.mul? p
  let hundred ← Binary64.ofNat? 100
  let y ← x.div? hundred
  return min y.ceilNat (UInt64.size - 1)

/-- The bound that holds the percentile; zero without samples or beyond the last one. -/
def percentile (h : Histogram) (p : Binary64) : Duration :=
  if h.total = 0 then .zero
  else match (rankOf? h.total p).bind h.boundOfRank with
    | some ms => .ofMillis ms
    | none => .zero

def percentileNat (h : Histogram) (p : Nat) : Duration :=
  match Binary64.ofNat? p with
  | some x => h.percentile x
  | none => .zero

def p50 (h : Histogram) : Duration := h.percentileNat 50
def p99 (h : Histogram) : Duration := h.percentileNat 99

example : ([1, 10, 11, 600].foldl (fun h n => h.record (.ofMillis n)) standard).p50 = .ofMillis 10 := by
  decide +kernel

end Histogram

end TrafficTrace
