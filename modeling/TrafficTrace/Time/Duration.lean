import TrafficTrace.Document.Record

/-! Lengths of time in whole nanoseconds, up to `2^64` seconds less a nanosecond, and readings of a
clock. -/
namespace TrafficTrace

/-- The number of nanoseconds of the longest duration. -/
def Duration.limit : Nat := UInt64.size * 1000000000 - 1

structure Duration where
  nanos : Nat
  le_limit : nanos ≤ Duration.limit
deriving DecidableEq, Repr

namespace Duration

@[ext] theorem ext {a b : Duration} (h : a.nanos = b.nanos) : a = b := by
  cases a; cases b; simp_all

/-- The given number of nanoseconds, or the longest duration. -/
def clamp (n : Nat) : Duration := ⟨min n limit, Nat.min_le_right _ _⟩

def zero : Duration := ⟨0, Nat.zero_le _⟩
def longest : Duration := ⟨limit, Nat.le_refl _⟩

instance : Inhabited Duration := ⟨zero⟩

def ofNanos (n : Nat) : Duration := clamp n
def ofMillis (n : Nat) : Duration := clamp (n * 1000000)
def ofSecs (n : Nat) : Duration := clamp (n * 1000000000)

/-- The number of nanoseconds, and none when it is too large. -/
def ofNanos? (n : Nat) : Option Duration := if h : n ≤ limit then some ⟨n, h⟩ else none

def secs (d : Duration) : Nat := d.nanos / 1000000000
def subsecNanos (d : Duration) : Nat := d.nanos % 1000000000
/-- Whole milliseconds. -/
def millis (d : Duration) : Nat := d.nanos / 1000000

/-- The sum, and none when it is too long. -/
def add? (a b : Duration) : Option Duration := ofNanos? (a.nanos + b.nanos)

/-- The sum, or the longest duration. -/
def add (a b : Duration) : Duration := clamp (a.nanos + b.nanos)

/-- The difference, or zero. -/
def sub (a b : Duration) : Duration :=
  ⟨a.nanos - b.nanos, Nat.le_trans (Nat.sub_le _ _) a.le_limit⟩

/-- The product, or the longest duration. -/
def mul (d : Duration) (n : Nat) : Duration := clamp (d.nanos * n)

/-- The quotient by a positive number, without the fraction of a nanosecond. -/
def div (d : Duration) (n : Nat) : Duration :=
  ⟨d.nanos / n, Nat.le_trans (Nat.div_le_self _ _) d.le_limit⟩

instance : LE Duration := ⟨fun a b => a.nanos ≤ b.nanos⟩
instance : LT Duration := ⟨fun a b => a.nanos < b.nanos⟩
instance (a b : Duration) : Decidable (a ≤ b) := inferInstanceAs (Decidable (a.nanos ≤ b.nanos))
instance (a b : Duration) : Decidable (a < b) := inferInstanceAs (Decidable (a.nanos < b.nanos))
instance : Min Duration := ⟨fun a b => if a ≤ b then a else b⟩
instance : Max Duration := ⟨fun a b => if a ≤ b then b else a⟩

theorem le_def {a b : Duration} : a ≤ b ↔ a.nanos ≤ b.nanos := Iff.rfl
theorem lt_def {a b : Duration} : a < b ↔ a.nanos < b.nanos := Iff.rfl

@[simp] theorem nanos_min (a b : Duration) : (min a b).nanos = min a.nanos b.nanos := by
  show (if a ≤ b then a else b).nanos = _
  simp only [le_def]; split <;> omega

@[simp] theorem nanos_max (a b : Duration) : (max a b).nanos = max a.nanos b.nanos := by
  show (if a ≤ b then b else a).nanos = _
  simp only [le_def]; split <;> omega

@[simp] theorem nanos_mul (d : Duration) (n : Nat) : (d.mul n).nanos = min (d.nanos * n) limit := rfl
@[simp] theorem nanos_add (a b : Duration) : (a.add b).nanos = min (a.nanos + b.nanos) limit := rfl

theorem add?_eq_none_iff {a b : Duration} : a.add? b = none ↔ limit < a.nanos + b.nanos := by
  unfold add? ofNanos?
  split <;> simp <;> omega

theorem le_mul {n : Nat} (positive : 0 < n) (d : Duration) : d ≤ d.mul n := by
  have product : d.nanos ≤ d.nanos * n := Nat.le_mul_of_pos_right _ positive
  have fits := d.le_limit
  rw [le_def, nanos_mul]
  omega

/-- Under a cap, a product that is too long to be represented makes no difference. -/
theorem nanos_min_mul (d : Duration) (n : Nat) (cap : Duration) :
    (min (d.mul n) cap).nanos = min (d.nanos * n) cap.nanos := by
  have fits := cap.le_limit
  rw [nanos_min, nanos_mul]
  omega

/-- The value kept between two bounds, and none when these are out of order. -/
def between? (d low high : Duration) : Option Duration :=
  if high < low then none else some (if d < low then low else if high < d then high else d)

/-- A value that is not below the bounds is only kept under the upper one. -/
theorem between?_of_le {d low high : Duration} (ordered : low ≤ high) (above : low ≤ d) :
    d.between? low high = some (min d high) := by
  have bounds : ¬ high < low := Nat.not_lt.mpr ordered
  have value : ¬ d < low := Nat.not_lt.mpr above
  have same : (if high < d then high else d) = min d high := by
    apply ext
    rw [nanos_min]
    by_cases long : high < d
    · have beyond := lt_def.mp long
      rw [if_pos long]
      omega
    · have within := mt lt_def.mpr long
      rw [if_neg long]
      omega
  rw [between?, if_neg bounds, if_neg value, same]

open Document in
/-- Reads an object of whole seconds and nanoseconds. -/
def decoder : Decoder Duration := fun n => do
  let parts := (fun s ns => (s, ns)) <$> Record.required "secs" Decoder.nat64
    <*> Record.required "nanos" Decoder.nat32
  let (secs, nanos) ← parts.decodeStrict n
  match ofNanos? (secs * 1000000000 + nanos) with
  | some d => return d
  | none => .error .malformed

def toJson (d : Duration) : Json := .obj [("secs", .ofNat d.secs), ("nanos", .ofNat d.subsecNanos)]

end Duration

/-- Nanoseconds since a clock was started. -/
abbrev Instant := Nat

namespace Instant

/-- The time that has passed is less than the duration. A clock that was set back has not moved. -/
def within (now start : Instant) (d : Duration) : Bool := now - start < d.nanos

/-- The time that has passed is the duration or more. -/
def elapsed (now start : Instant) (d : Duration) : Bool := d.nanos ≤ now - start

end Instant

end TrafficTrace
