import TrafficTrace.Assoc
import TrafficTrace.Event

/-! Counts of events by direction and kind: how many were seen, and how many of them were forwarded
and dropped. Events are counted one by one, so the counts have no bound here. -/
namespace TrafficTrace

/-- What became of an event. -/
inductive Disposition where
  | forwarded
  | dropped
deriving DecidableEq, Repr

def Disposition.name : Disposition → String
  | forwarded => "Forwarded"
  | dropped => "Dropped"

structure Bucket where
  input : Nat
  forwarded : Nat
  filtered : Nat
deriving DecidableEq, Repr

namespace Bucket

def zero : Bucket := ⟨0, 0, 0⟩

def add (a b : Bucket) : Bucket :=
  ⟨a.input + b.input, a.forwarded + b.forwarded, a.filtered + b.filtered⟩

def record (b : Bucket) : Disposition → Bucket
  | .forwarded => { b with input := b.input + 1, forwarded := b.forwarded + 1 }
  | .dropped => { b with input := b.input + 1, filtered := b.filtered + 1 }

end Bucket

structure PacketCounts where
  buckets : Assoc (Direction × EventKind) Bucket

namespace PacketCounts

def empty : PacketCounts := ⟨.empty⟩

def get (c : PacketCounts) (d : Direction) (k : EventKind) : Bucket :=
  (c.buckets.get? (d, k)).getD .zero

def record (c : PacketCounts) (d : Direction) (k : EventKind) (outcome : Disposition) :
    PacketCounts :=
  ⟨c.buckets.put (d, k) ((c.get d k).record outcome)⟩

theorem get_record (c : PacketCounts) (d d' : Direction) (k k' : EventKind)
    (outcome : Disposition) :
    (c.record d k outcome).get d' k' =
      if (d', k') = (d, k) then (c.get d k).record outcome else c.get d' k' := by
  simp only [get, record, Assoc.get?_put]
  split <;> rfl

/-- The buckets in use, in order of direction and kind. -/
def toList (c : PacketCounts) : List (Direction × EventKind × Bucket) :=
  Direction.all.flatMap fun d => EventKind.all.filterMap fun k =>
    (c.buckets.get? (d, k)).map fun b => (d, k, b)

/-- The sum of all buckets. -/
def total (c : PacketCounts) : Bucket := c.toList.foldl (fun t b => t.add b.2.2) .zero

def isEmpty (c : PacketCounts) : Bool := c.buckets.size = 0

end PacketCounts

end TrafficTrace
