import TrafficTrace.Time.Duration

/-! How often a request is tried, and how long to wait in between: the wait doubles with each attempt
and stays between two bounds. -/
namespace TrafficTrace

open Document

structure RetryPolicy where
  minWait : Duration
  maxWait : Duration
  /-- Attempts in all; zero counts as one. -/
  maxAttempts : Nat
deriving DecidableEq, Repr

namespace RetryPolicy

def standard : RetryPolicy := ⟨.ofMillis 100, .ofSecs 2, 3⟩

/-- A single attempt. -/
def once : RetryPolicy := { standard with maxAttempts := 1 }

/-- A power of two in 32 bits, and none when it has no place there. -/
def powerOfTwo32? (n : Nat) : Option Nat := if n < 32 then some (Nat.pow 2 n) else none

/-- The wait before an attempt; the first retry is attempt 2. The doubling ends after 31 steps. None
would be a factor that has no place in 32 bits, or bounds that are out of order. -/
def backoff? (p : RetryPolicy) (attempt : Nat) : Option Duration := do
  let factor ← powerOfTwo32? (min (attempt - 2) 31)
  (p.minWait.mul factor).between? p.minWait (max p.maxWait p.minWait)

theorem backoff?_eq (p : RetryPolicy) (attempt : Nat) :
    p.backoff? attempt =
      some (min (p.minWait.mul (Nat.pow 2 (min (attempt - 2) 31))) (max p.maxWait p.minWait)) := by
  have factor : powerOfTwo32? (min (attempt - 2) 31) = some (Nat.pow 2 (min (attempt - 2) 31)) :=
    if_pos (by omega)
  have ordered : p.minWait ≤ max p.maxWait p.minWait := by
    rw [Duration.le_def, Duration.nanos_max]
    omega
  have above := p.minWait.le_mul (Nat.two_pow_pos (min (attempt - 2) 31))
  rw [backoff?, factor]
  exact Duration.between?_of_le ordered above

/-- The same wait, which there always is. -/
def backoff (p : RetryPolicy) (attempt : Nat) : Duration :=
  (p.backoff? attempt).get (by rw [backoff?_eq]; rfl)

/-- Whether there is an attempt after the given number of them. -/
def allowsAnother (p : RetryPolicy) (attempts : Nat) : Bool := attempts < max p.maxAttempts 1

theorem allowsAnother_iff {p : RetryPolicy} {attempts : Nat} :
    p.allowsAnother attempts = true ↔ attempts < max p.maxAttempts 1 := decide_eq_true_iff

def record : Record RetryPolicy :=
  mk <$> Record.required "min_wait" Duration.decoder
    <*> Record.required "max_wait" Duration.decoder
    <*> Record.required "max_attempts" Decoder.nat32

def toJson (p : RetryPolicy) : Json :=
  .obj [("min_wait", p.minWait.toJson), ("max_wait", p.maxWait.toJson),
    ("max_attempts", .ofNat p.maxAttempts)]

example : (List.range 4).map (fun n => (standard.backoff (n + 4)).millis) = [400, 800, 1600, 2000] := by
  decide +kernel

end RetryPolicy

end TrafficTrace
