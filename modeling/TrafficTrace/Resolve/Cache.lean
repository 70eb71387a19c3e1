import TrafficTrace.Assoc
import TrafficTrace.Time.Duration

/-! A cache whose entries grow old. An entry is served while it is fresh, and held until something is
pruned after its hard limit. -/
namespace TrafficTrace

/-- A value and the time at which it was written. -/
structure CacheEntry (α : Type) where
  value : α
  written : Instant
deriving DecidableEq, Repr

structure Cache (κ α : Type) where
  fresh : Duration
  hard : Duration
  entries : Assoc κ (CacheEntry α)

namespace Cache

variable {κ α : Type} [DecidableEq κ]

def standardFresh : Duration := .ofSecs 30
def standardHard : Duration := .ofSecs 300

/-- Nothing is dropped while it is still fresh. -/
def empty (fresh hard : Duration) : Cache κ α := ⟨fresh, max hard fresh, .empty⟩

def get? (c : Cache κ α) (now : Instant) (key : κ) : Option α :=
  match c.entries.get? key with
  | some e => if now.within e.written c.fresh then some e.value else none
  | none => none

def put (c : Cache κ α) (now : Instant) (key : κ) (value : α) : Cache κ α :=
  { c with entries := c.entries.put key ⟨value, now⟩ }

/-- Drops what is past its hard limit. -/
def prune (c : Cache κ α) (now : Instant) : Cache κ α :=
  { c with entries := c.entries.filter fun e => now.within e.2.written c.hard }

/-- Writes values in their order, then prunes. -/
def populate (c : Cache κ α) (now : Instant) (values : List (κ × α)) : Cache κ α :=
  (values.foldl (fun c v => c.put now v.1 v.2) c).prune now

def invalidate (c : Cache κ α) (key : κ) : Cache κ α := { c with entries := c.entries.erase key }

def clear (c : Cache κ α) : Cache κ α := { c with entries := .empty }

/-- The number of entries held, fresh or not. -/
def size (c : Cache κ α) : Nat := c.entries.size

def isEmpty (c : Cache κ α) : Bool := c.size = 0

/-- What can happen to a cache. -/
inductive Action (κ α : Type) where
  | put (key : κ) (value : α)
  | populate (values : List (κ × α))
  | invalidate (key : κ)
  | prune
  | clear
deriving DecidableEq, Repr

def step (c : Cache κ α) (now : Instant) : Action κ α → Cache κ α
  | .put key value => c.put now key value
  | .populate values => c.populate now values
  | .invalidate key => c.invalidate key
  | .prune => c.prune now
  | .clear => c.clear

/-- The cache after actions at given times. -/
def run (c : Cache κ α) (actions : List (Instant × Action κ α)) : Cache κ α :=
  actions.foldl (fun c a => c.step a.1 a.2) c

example :
    let c : Cache String Nat := (empty standardFresh standardHard).run [(0, .put "a" 1)]
    c.get? (30 * 1000000000 - 1) "a" = some 1 ∧ c.get? (30 * 1000000000) "a" = none := by
  decide +kernel

end Cache

end TrafficTrace
