import Mathlib.Data.List.Basic
import TrafficTrace.Collector.Counts

/-!
# Counts and what they count

Counts are kept one event at a time. They are compared here with lists of events: the bucket of a
direction and a kind, and the sum of all buckets.
-/
namespace TrafficTrace

/-- What becomes of an event that passes, and of one that does not. -/
def Disposition.ofPass (passed : Bool) : Disposition := if passed then .forwarded else .dropped

namespace Bucket

variable {α : Type}

/-- The bucket of a list: all of it, what satisfies a condition, and what does not. -/
def tally (p : α → Bool) (l : List α) : Bucket :=
  ⟨l.length, (l.filter p).length, (l.filter fun x => !p x).length⟩

theorem tally_snoc (p : α → Bool) (l : List α) (x : α) :
    tally p (l ++ [x]) = (tally p l).record (.ofPass (p x)) := by
  cases pass : p x <;> simp [tally, record, Disposition.ofPass, List.filter_append, pass]

theorem tally_balanced (p : α → Bool) (l : List α) :
    (tally p l).forwarded + (tally p l).filtered = (tally p l).input :=
  (List.length_eq_length_filter_add p).symm

theorem record_add (a b : Bucket) (outcome : Disposition) :
    (a.record outcome).add b = (a.add b).record outcome := by
  cases outcome <;> simp only [record, add, mk.injEq, true_and, and_true] <;> omega

theorem add_record (a b : Bucket) (outcome : Disposition) :
    a.add (b.record outcome) = (a.add b).record outcome := by
  cases outcome <;> rfl

end Bucket

namespace PacketCounts

theorem foldl_present (c : PacketCounts) (d : Direction) (kinds : List EventKind) (t : Bucket) :
    (kinds.filterMap fun k => (c.buckets.get? (d, k)).map fun b => (d, k, b)).foldl
      (fun t b => t.add b.2.2) t = kinds.foldl (fun t k => t.add (c.get d k)) t := by
  induction kinds generalizing t with
  | nil => rfl
  | cons k rest ih =>
    rw [List.filterMap_cons, List.foldl_cons, ← ih]
    rw [get]
    cases c.buckets.get? (d, k) <;> rfl

/-- A bucket that is not in use adds nothing. -/
theorem total_eq (c : PacketCounts) :
    c.total = Direction.all.foldl
      (fun t d => EventKind.all.foldl (fun t k => t.add (c.get d k)) t) .zero := by
  rw [total, toList, List.foldl_flatMap]
  simp only [foldl_present]

theorem total_record (c : PacketCounts) (d : Direction) (k : EventKind)
    (outcome : Disposition) : (c.record d k outcome).total = c.total.record outcome := by
  rw [total_eq, total_eq]
  cases d <;> cases k <;>
    simp [Direction.all, EventKind.all, get_record, Bucket.add_record, Bucket.record_add]

/-- The counts of a list of events. -/
structure Counts (p : Event → Bool) (c : PacketCounts) (events : List Event) : Prop where
  bucket : ∀ d k, c.get d k = .tally p (events.filter fun e => e.direction = d && e.kind = k)
  total : c.total = .tally p events

theorem counts_empty (p : Event → Bool) : Counts p empty [] where
  bucket _ _ := rfl
  total := rfl

theorem Counts.record {p : Event → Bool} {c : PacketCounts} {events : List Event}
    (h : Counts p c events) (e : Event) :
    Counts p (c.record e.direction e.kind (.ofPass (p e))) (events ++ [e]) where
  bucket d k := by
    rw [get_record, List.filter_append, List.filter_singleton]
    by_cases own : (d, k) = (e.direction, e.kind)
    · obtain ⟨rfl, rfl⟩ := Prod.mk.inj own
      simp [h.bucket, Bucket.tally_snoc]
    · have other : (e.direction = d && e.kind = k) = false := by
        simp only [Bool.and_eq_false_iff, decide_eq_false_iff_not, ← not_and_or]
        rintro ⟨rfl, rfl⟩
        exact own rfl
      simp [own, other, h.bucket]
  total := by rw [total_record, h.total, Bucket.tally_snoc]

end PacketCounts

end TrafficTrace
