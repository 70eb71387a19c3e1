import Mathlib.Data.List.Forall2
import TrafficTrace.Backend.Script
import TrafficTrace.Collector.Chain
import TrafficTrace.Proofs.Collector.Ledger
import TrafficTrace.Proofs.Collector.Requests
import TrafficTrace.Proofs.Collector.Tally

/-!
# A chain is the conjunction of its filters

Whatever the order of its stages, a chain does to an event what its end does if every filter passes
the event, and drops it otherwise. Counters see and change nothing of this. What a pattern matches
plays no part: an exclusion is any condition on events. What an end does is stated of the end by
itself, without the chain around it.
-/
namespace TrafficTrace

variable {σ : Type}

/-- A stage that drops events. -/
inductive EventFilter where
  | exclusion (rules : ExclusionRules)
  | trackers (included : Bool)

namespace EventFilter

def passes : EventFilter → Event → Bool
  | exclusion rules, e => !rules.excludes e
  | trackers included, e => included || !Collector.isTracker e

/-- Whether an event passes all of some filters. -/
def allPass (filters : List EventFilter) (e : Event) : Bool := filters.all fun f => f.passes e

@[simp] theorem allPass_cons (f : EventFilter) (filters : List EventFilter) (e : Event) :
    allPass (f :: filters) e = (f.passes e && allPass filters e) := List.all_cons

@[simp] theorem allPass_concat (filters : List EventFilter) (f : EventFilter) (e : Event) :
    allPass (filters ++ [f]) e = (allPass filters e && f.passes e) := by
  simp [allPass]

theorem allPass_perm {filters filters' : List EventFilter} (h : filters.Perm filters')
    (e : Event) : allPass filters e = allPass filters' e := h.all_eq

end EventFilter

/-- The counts after some more events, each forwarded or dropped as `p` says. -/
def PacketCounts.recordAll (n : PacketCounts) (p : Event → Bool) (events : List Event) :
    PacketCounts :=
  events.foldl (fun n e => n.record e.direction e.kind (.ofPass (p e))) n

namespace Bucket

/-- What was counted was forwarded or dropped. -/
def Balanced (b : Bucket) : Prop := b.forwarded + b.filtered = b.input

theorem Balanced.add {a b : Bucket} (ha : a.Balanced) (hb : b.Balanced) : (a.add b).Balanced := by
  simp only [Balanced, Bucket.add] at *
  omega

theorem tally_cons {α : Type} (p : α → Bool) (x : α) (l : List α) (a : Bucket) :
    (a.record (.ofPass (p x))).add (tally p l) = a.add (tally p (x :: l)) := by
  cases h : p x <;> simp [h, record, add, tally, Disposition.ofPass] <;> omega

end Bucket

/-- A bucket grows by the tally of the events of its direction and kind. -/
theorem PacketCounts.get_recordAll (n : PacketCounts) (p : Event → Bool) (events : List Event)
    (d : Direction) (k : EventKind) :
    (n.recordAll p events).get d k = (n.get d k).add
      (.tally p (events.filter fun e => e.direction = d && e.kind = k)) := by
  induction events generalizing n with
  | nil => rfl
  | cons e rest ih =>
    have h := ih (n.record e.direction e.kind (.ofPass (p e)))
    rw [recordAll, List.foldl_cons]
    refine h.trans ?_
    by_cases own : e.direction = d ∧ e.kind = k
    · obtain ⟨rfl, rfl⟩ := own
      rw [get_record, if_pos rfl, Bucket.tally_cons]
      simp
    · have other : (d, k) ≠ (e.direction, e.kind) := by
        intro same
        cases same
        exact own ⟨rfl, rfl⟩
      have skipped : (e.direction = d && e.kind = k) = false := by simpa using own
      rw [get_record, if_neg other, List.filter_cons, skipped]
      rfl

/-! ### Ends of chains -/

/-- What a chain ends in. -/
inductive ChainEnd where
  | memory (events : List Event) (closed : Bool)
  | batches (c : BatchCollector)

namespace ChainEnd

/-- The events that come before the first close. -/
def eventsBeforeClose : List (Moment × CollectorAction) → List Event
  | [] | (_, .close) :: _ => []
  | (_, .flushIfDue) :: rest => eventsBeforeClose rest
  | (_, .process e) :: rest => e :: eventsBeforeClose rest

/-- What a memory answers: once it is closed it takes no events. -/
def memoryReplies (closed : Bool) :
    List (Moment × CollectorAction) → List (Except CollectorError (Option Disposition))
  | [] => []
  | (_, .process _) :: rest =>
    (if closed then .error .closed else .ok (some .forwarded)) :: memoryReplies closed rest
  | (_, .flushIfDue) :: rest => .ok none :: memoryReplies closed rest
  | (_, .close) :: rest => .ok none :: memoryReplies true rest

/-- What requests make of an end that they get to. -/
def run (b : Backend σ) (s : σ) (requests : List (Moment × CollectorAction)) :
    ChainEnd → ChainEnd × σ
  | memory events closed =>
    (memory (if closed then events else events ++ eventsBeforeClose requests)
      (closed || requests.any fun q => q.2 = .close), s)
  | batches c => (batches (c.run b s requests).1, (c.run b s requests).2)

def answers (b : Backend σ) (s : σ) (requests : List (Moment × CollectorAction)) :
    ChainEnd → List (Except CollectorError (Option Disposition))
  | memory _ closed => memoryReplies closed requests
  | batches c => c.replies b s requests

end ChainEnd

namespace Collector

/-- The end of the chain, by itself. -/
def chainEnd : Collector → ChainEnd
  | memory events closed => .memory events closed
  | batches c => .batches c
  | exclusion _ next | trackers _ next | counting _ next => next.chainEnd

/-- The filters from the head of the chain on. -/
def filters : Collector → List EventFilter
  | memory _ _ | batches _ => []
  | exclusion rules next => .exclusion rules :: next.filters
  | trackers included next => .trackers included :: next.filters
  | counting _ next => next.filters

/-- The counts of each counter, with the filters above it. `above` stands before the chain. -/
def countersBelow (above : List EventFilter) : Collector → List (List EventFilter × PacketCounts)
  | memory _ _ | batches _ => []
  | exclusion rules next => next.countersBelow (above ++ [.exclusion rules])
  | trackers included next => next.countersBelow (above ++ [.trackers included])
  | counting n next => (above, n) :: next.countersBelow above

def counters (c : Collector) : List (List EventFilter × PacketCounts) := c.countersBelow []

/-- The same stages before another end. -/
def withLast : Collector → Collector → Collector
  | memory _ _, last | batches _, last => last
  | exclusion rules next, last => exclusion rules (next.withLast last)
  | trackers included next, last => trackers included (next.withLast last)
  | counting n next, last => counting n (next.withLast last)

/-- The chain whose counters have counted an event as far as it came. -/
def counted (e : Event) (outcome : Disposition) : Collector → Collector
  | memory events closed => memory events closed
  | batches c => batches c
  | exclusion rules next =>
    exclusion rules
      (if EventFilter.passes (.exclusion rules) e then next.counted e outcome else next)
  | trackers included next =>
    trackers included
      (if EventFilter.passes (.trackers included) e then next.counted e outcome else next)
  | counting n next =>
    counting (n.record e.direction e.kind outcome) (next.counted e outcome)

/-- Whether a request gets to the end of the chain. -/
def reaches (c : Collector) : CollectorAction → Bool
  | .process e => EventFilter.allPass c.filters e
  | .flushIfDue | .close => true

/-- The chain whose counters know the answer to a request. -/
def informed (c : Collector) : CollectorAction → Except CollectorError (Option Disposition) →
    Collector
  | .process e, .ok (some outcome) => c.counted e outcome
  | _, _ => c

@[simp] theorem last_withLast (c d : Collector) : (c.withLast d).last = d.last := by
  induction c with
  | memory _ _ | batches _ => rfl
  | exclusion _ _ ih | trackers _ _ ih | counting _ _ ih => exact ih

@[simp] theorem last_counted (c : Collector) (e : Event) (outcome : Disposition) :
    (c.counted e outcome).last = c.last := by
  induction c with
  | memory _ _ | batches _ => rfl
  | exclusion _ _ ih | trackers _ _ ih =>
    simp only [counted, last]
    split
    · exact ih
    · rfl
  | counting _ _ ih => exact ih

@[simp] theorem filters_counted (c : Collector) (e : Event) (outcome : Disposition) :
    (c.counted e outcome).filters = c.filters := by
  induction c with
  | memory _ _ | batches _ => rfl
  | exclusion _ _ ih | trackers _ _ ih =>
    simp only [counted, filters]
    split
    · rw [ih]
    · rfl
  | counting _ _ ih => exact ih

/-- The end of a chain has no filters and no counters. -/
theorem filters_last (c : Collector) : c.last.filters = [] := by
  induction c with
  | memory _ _ | batches _ => rfl
  | exclusion _ _ ih | trackers _ _ ih | counting _ _ ih => exact ih

theorem filters_withLast (c d : Collector) (h : d.last = d) :
    (c.withLast d).filters = c.filters := by
  have none : d.filters = [] := h ▸ d.filters_last
  induction c with
  | memory _ _ | batches _ => exact none
  | exclusion _ _ ih | trackers _ _ ih => simp only [withLast, filters, ih]
  | counting _ _ ih => exact ih

theorem countersBelow_last (above : List EventFilter) (c : Collector) :
    c.last.countersBelow above = [] := by
  induction c with
  | memory _ _ | batches _ => rfl
  | exclusion _ _ ih | trackers _ _ ih | counting _ _ ih => exact ih

theorem countersBelow_withLast (above : List EventFilter) (c d : Collector) (h : d.last = d) :
    (c.withLast d).countersBelow above = c.countersBelow above := by
  induction c generalizing above with
  | memory _ _ | batches _ => exact h ▸ d.countersBelow_last above
  | exclusion _ _ ih | trackers _ _ ih => exact ih _
  | counting _ _ ih => simp only [withLast, countersBelow, ih]

/-- Below a filter that an event does not pass nothing is counted. -/
theorem map_countersBelow_of_dropped (above : List EventFilter) (c : Collector) (e : Event)
    (outcome : Disposition) (h : EventFilter.allPass above e = false) :
    ((c.countersBelow above).map fun q => if EventFilter.allPass q.1 e then
      (q.1, q.2.record e.direction e.kind outcome) else q) = c.countersBelow above := by
  induction c generalizing above with
  | memory _ _ | batches _ => rfl
  | exclusion _ _ ih | trackers _ _ ih =>
    refine ih _ ?_
    rw [EventFilter.allPass_concat, h, Bool.false_and]
  | counting n _ ih =>
    rw [countersBelow, List.map_cons, ih above h, h]
    rfl

theorem countersBelow_counted (above : List EventFilter) (c : Collector) (e : Event)
    (outcome : Disposition) (h : EventFilter.allPass above e = true) :
    (c.counted e outcome).countersBelow above =
      (c.countersBelow above).map fun q => if EventFilter.allPass q.1 e then
        (q.1, q.2.record e.direction e.kind outcome) else q := by
  induction c generalizing above with
  | memory _ _ | batches _ => rfl
  | exclusion _ _ ih | trackers _ _ ih =>
    simp only [counted, countersBelow]
    split
    · rename_i passed
      refine ih _ ?_
      rw [EventFilter.allPass_concat, h, passed]
      rfl
    · rename_i dropped
      rw [map_countersBelow_of_dropped]
      rw [EventFilter.allPass_concat, h, Bool.eq_false_iff.mpr dropped]
      rfl
  | counting n next ih =>
    simp only [counted, countersBelow, List.map_cons, h, if_true]
    rw [ih above h]

theorem process_exclusion (b : Backend σ) (m : Moment) (e : Event) (rules : ExclusionRules)
    (next : Collector) (s : σ) :
    (exclusion rules next).process b m e s =
      if EventFilter.passes (.exclusion rules) e then
        ((next.process b m e s).1, exclusion rules (next.process b m e s).2.1,
          (next.process b m e s).2.2)
      else (.ok .dropped, exclusion rules next, s) := by
  rw [process, EventFilter.passes]
  cases rules.excludes e <;> rfl

theorem process_trackers (b : Backend σ) (m : Moment) (e : Event) (included : Bool)
    (next : Collector) (s : σ) :
    (trackers included next).process b m e s =
      if EventFilter.passes (.trackers included) e then
        ((next.process b m e s).1, trackers included (next.process b m e s).2.1,
          (next.process b m e s).2.2)
      else (.ok .dropped, trackers included next, s) := by
  rw [process, EventFilter.passes]
  cases included <;> cases isTracker e <;> rfl

/-- An event that some filter does not pass is dropped there, and the end is not called. -/
theorem process_of_dropped (b : Backend σ) (m : Moment) (e : Event) (c : Collector) (s : σ)
    (h : EventFilter.allPass c.filters e = false) :
    c.process b m e s = (.ok .dropped, c.counted e .dropped, s) := by
  induction c with
  | memory _ _ | batches _ => simp [filters, EventFilter.allPass] at h
  | exclusion rules next ih =>
    rw [process_exclusion, counted]
    split
    · rename_i passed
      rw [filters, EventFilter.allPass_cons, passed, Bool.true_and] at h
      rw [ih h]
    · rfl
  | trackers included next ih =>
    rw [process_trackers, counted]
    split
    · rename_i passed
      rw [filters, EventFilter.allPass_cons, passed, Bool.true_and] at h
      rw [ih h]
    · rfl
  | counting n next ih => rw [process, ih h, counted]

/-- The end of a chain stays an end. -/
theorem last_process_last (b : Backend σ) (m : Moment) (e : Event) (c : Collector) (s : σ) :
    (c.last.process b m e s).2.1.last = (c.last.process b m e s).2.1 := by
  induction c with
  | memory events closed => cases closed <;> rfl
  | batches c => rfl
  | exclusion _ _ ih | trackers _ _ ih | counting _ _ ih => exact ih

/-- An end counts nothing. -/
theorem counted_last (c : Collector) (e : Event) (outcome : Disposition) :
    c.last.counted e outcome = c.last := by
  induction c with
  | memory _ _ | batches _ => rfl
  | exclusion _ _ ih | trackers _ _ ih | counting _ _ ih => exact ih

theorem process_last (b : Backend σ) (m : Moment) (e : Event) (c : Collector) (s : σ) :
    c.last.process b m e s = ((c.last.process b m e s).1,
      (c.last.process b m e s).2.1.informed (.process e) ((c.last.process b m e s).1.map some),
      (c.last.process b m e s).2.2) := by
  have isEnd := last_process_last b m e c s
  cases done : (c.last.process b m e s).1 with
  | error fault => exact Prod.ext done rfl
  | ok d =>
    have same := counted_last (c.last.process b m e s).2.1 e d
    rw [isEnd] at same
    refine Prod.ext done (Prod.ext ?_ rfl)
    simp only [Except.map, informed, same]

/-- An event that every filter passes is the affair of the end, and its answer is counted. -/
theorem process_of_passed (b : Backend σ) (m : Moment) (e : Event) (c : Collector) (s : σ)
    (h : EventFilter.allPass c.filters e = true) :
    c.process b m e s = ((c.last.process b m e s).1,
      (c.withLast (c.last.process b m e s).2.1).informed (.process e)
        ((c.last.process b m e s).1.map some), (c.last.process b m e s).2.2) := by
  induction c with
  | memory events closed => exact process_last b m e (memory events closed) s
  | batches c => exact process_last b m e (batches c) s
  | exclusion rules next ih =>
    rw [filters, EventFilter.allPass_cons, Bool.and_eq_true] at h
    rw [process_exclusion, if_pos h.1, ih h.2, last]
    cases (next.last.process b m e s).1 with
    | error fault => rfl
    | ok d => simp only [Except.map, informed, withLast, counted, h.1, if_true]
  | trackers included next ih =>
    rw [filters, EventFilter.allPass_cons, Bool.and_eq_true] at h
    rw [process_trackers, if_pos h.1, ih h.2, last]
    cases (next.last.process b m e s).1 with
    | error fault => rfl
    | ok d => simp only [Except.map, informed, withLast, counted, h.1, if_true]
  | counting n next ih =>
    rw [process, ih h, last]
    cases (next.last.process b m e s).1 with
    | error fault => rfl
    | ok d => rfl

theorem flushIfDue_eq (b : Backend σ) (now : Instant) (c : Collector) (s : σ) :
    c.flushIfDue b now s = ((c.last.flushIfDue b now s).1,
      c.withLast (c.last.flushIfDue b now s).2.1, (c.last.flushIfDue b now s).2.2) := by
  induction c with
  | memory _ _ | batches _ => rfl
  | exclusion _ _ ih | trackers _ _ ih | counting _ _ ih => rw [flushIfDue, ih]; rfl

theorem close_eq (b : Backend σ) (c : Collector) (s : σ) :
    c.close b s = ((c.last.close b s).1, c.withLast (c.last.close b s).2.1,
      (c.last.close b s).2.2) := by
  induction c with
  | memory _ _ | batches _ => rfl
  | exclusion _ _ ih | trackers _ _ ih | counting _ _ ih => rw [close, ih]; rfl

theorem last_step_last (b : Backend σ) (m : Moment) (a : CollectorAction) (c : Collector)
    (s : σ) : (c.last.step b m s a).2.1.last = (c.last.step b m s a).2.1 := by
  cases a with
  | process e => exact last_process_last b m e c s
  | flushIfDue =>
    induction c with
    | memory _ _ | batches _ => rfl
    | exclusion _ _ ih | trackers _ _ ih | counting _ _ ih => exact ih
  | close =>
    induction c with
    | memory _ _ | batches _ => rfl
    | exclusion _ _ ih | trackers _ _ ih | counting _ _ ih => exact ih

/-- A request that gets to the end is answered there. -/
theorem step_of_reaches (b : Backend σ) (m : Moment) (a : CollectorAction) (c : Collector)
    (s : σ) (h : c.reaches a = true) :
    c.step b m s a = ((c.last.step b m s a).1,
      (c.withLast (c.last.step b m s a).2.1).informed a (c.last.step b m s a).1,
      (c.last.step b m s a).2.2) := by
  cases a with
  | process e =>
    have passed := process_of_passed b m e c s h
    simp only [step, passed]
  | flushIfDue =>
    simp only [step, flushIfDue_eq b m.now c s]
    rfl
  | close =>
    simp only [step, close_eq b c s]
    rfl

/-- Any other request is an event that is dropped. -/
theorem step_of_not_reaches (b : Backend σ) (m : Moment) (a : CollectorAction) (c : Collector)
    (s : σ) (h : c.reaches a = false) :
    c.step b m s a = (.ok (some .dropped), c.informed a (.ok (some .dropped)), s) := by
  cases a with
  | process e =>
    have dropped := process_of_dropped b m e c s h
    simp only [step, dropped]
    rfl
  | flushIfDue => cases h
  | close => cases h

/-- An end takes an event or fails; it drops none. -/
theorem forwarded_of_last (b : Backend σ) (m : Moment) (e : Event) (c : Collector) (s : σ)
    {d : Disposition} (h : (c.last.process b m e s).1 = .ok d) : d = .forwarded := by
  induction c with
  | memory events closed =>
    rw [last, process] at h
    split at h
    · cases h
    · exact (Except.ok.inj h).symm
  | batches c =>
    have taken : (c.process b m e s).1 = .ok d := h
    exact (BatchCollector.process_ok taken).2.1
  | exclusion _ _ ih | trackers _ _ ih | counting _ _ ih => exact ih h

/-- The event of a request that was answered without an error. -/
def handledBy : CollectorAction → Except CollectorError (Option Disposition) → List Event
  | .process e, .ok _ => [e]
  | _, _ => []

theorem filters_informed (c : Collector) (a : CollectorAction)
    (r : Except CollectorError (Option Disposition)) : (c.informed a r).filters = c.filters := by
  unfold informed
  split
  · exact filters_counted _ _ _
  · rfl

theorem last_informed (c : Collector) (a : CollectorAction)
    (r : Except CollectorError (Option Disposition)) : (c.informed a r).last = c.last := by
  unfold informed
  split
  · exact last_counted _ _ _
  · rfl

theorem counters_informed (c : Collector) (e : Event) (p : Event → Bool) :
    (c.informed (.process e) (.ok (some (.ofPass (p e))))).counters =
      c.counters.map fun q => (q.1, q.2.recordAll p ([e].filter (EventFilter.allPass q.1))) := by
  rw [informed, counters, countersBelow_counted [] c e _ rfl, counters]
  refine List.map_congr_left fun q _ => ?_
  rw [List.filter_singleton]
  cases EventFilter.allPass q.1 e <;> rfl

theorem counters_withLast (c d : Collector) (h : d.last = d) :
    (c.withLast d).counters = c.counters := countersBelow_withLast [] c d h

/-- What one request makes of the filters, of the end and of the counters. -/
theorem step_filters (b : Backend σ) (m : Moment) (a : CollectorAction) (c : Collector)
    (s : σ) : (c.step b m s a).2.1.filters = c.filters := by
  cases h : c.reaches a with
  | true =>
    rw [step_of_reaches b m a c s h, filters_informed]
    exact filters_withLast _ _ (last_step_last b m a c s)
  | false => rw [step_of_not_reaches b m a c s h, filters_informed]

theorem step_last (b : Backend σ) (m : Moment) (a : CollectorAction) (c : Collector) (s : σ)
    (h : c.reaches a = true) :
    (c.step b m s a).2.1.last = (c.last.step b m s a).2.1 ∧
      (c.step b m s a).2.2 = (c.last.step b m s a).2.2 := by
  rw [step_of_reaches b m a c s h, last_informed, last_withLast, last_step_last]
  exact ⟨rfl, rfl⟩

theorem step_counters (b : Backend σ) (m : Moment) (a : CollectorAction) (c : Collector)
    (s : σ) :
    (c.step b m s a).2.1.counters = c.counters.map fun q =>
      (q.1, q.2.recordAll (EventFilter.allPass c.filters)
        ((handledBy a (c.step b m s a).1).filter (EventFilter.allPass q.1))) := by
  have none : c.counters = c.counters.map fun q =>
      (q.1, q.2.recordAll (EventFilter.allPass c.filters)
        (([] : List Event).filter (EventFilter.allPass q.1))) := (List.map_id _).symm
  cases a with
  | process e =>
    cases passed : EventFilter.allPass c.filters e with
    | false =>
      rw [step_of_not_reaches b m (.process e) c s passed]
      have counted := counters_informed c e (EventFilter.allPass c.filters)
      rw [passed] at counted
      exact counted
    | true =>
      have isEnd := last_process_last b m e c s
      have forwarded := fun d => forwarded_of_last b m e c s (d := d)
      have unmoved := c.counters_withLast _ isEnd
      rw [step_of_reaches b m (.process e) c s passed]
      simp only [step]
      cases done : (c.last.process b m e s).1 with
      | error fault => exact unmoved.trans none
      | ok d =>
        obtain rfl := forwarded d done
        have counted := counters_informed (c.withLast (c.last.process b m e s).2.1) e
          (EventFilter.allPass c.filters)
        rw [passed, unmoved] at counted
        exact counted
  | flushIfDue =>
    rw [step_of_reaches b m .flushIfDue c s rfl]
    exact (c.counters_withLast _ (last_step_last b m .flushIfDue c s)).trans none
  | close =>
    rw [step_of_reaches b m .close c s rfl]
    exact (c.counters_withLast _ (last_step_last b m .close c s)).trans none

/-- The answers to requests in their order. -/
def answers (b : Backend σ) (c : Collector) (s : σ) :
    List (Moment × CollectorAction) → List (Except CollectorError (Option Disposition))
  | [] => []
  | (m, a) :: rest =>
    (c.step b m s a).1 :: answers b (c.step b m s a).2.1 (c.step b m s a).2.2 rest

/-- The events that were processed without an error, in their order. -/
def handled (b : Backend σ) (c : Collector) (s : σ) :
    List (Moment × CollectorAction) → List Event
  | [] => []
  | (m, a) :: rest =>
    handledBy a (c.step b m s a).1 ++ handled b (c.step b m s a).2.1 (c.step b m s a).2.2 rest

/-- The requests that get to the end. -/
def reaching (c : Collector) (requests : List (Moment × CollectorAction)) :
    List (Moment × CollectorAction) :=
  requests.filter fun q => c.reaches q.2

theorem reaches_step (b : Backend σ) (m : Moment) (a : CollectorAction) (c : Collector) (s : σ) :
    (c.step b m s a).2.1.reaches = c.reaches := by
  funext x
  cases x with
  | process e => rw [reaches, reaches, step_filters]
  | flushIfDue => rfl
  | close => rfl

theorem step_unreached (b : Backend σ) (m : Moment) (a : CollectorAction) (c : Collector) (s : σ)
    (h : c.reaches a = false) :
    (c.step b m s a).1 = .ok (some .dropped) ∧ (c.step b m s a).2.1.last = c.last ∧
      (c.step b m s a).2.2 = s := by
  rw [step_of_not_reaches b m a c s h]
  exact ⟨rfl, last_informed _ _ _, rfl⟩

/-- A request that gets to the end is not answered with a drop. -/
theorem step_reached (b : Backend σ) (m : Moment) (a : CollectorAction) (c : Collector) (s : σ)
    (h : c.reaches a = true) :
    (c.step b m s a).1 = (c.last.step b m s a).1 ∧
      (c.step b m s a).1 ≠ .ok (some .dropped) := by
  have same : (c.step b m s a).1 = (c.last.step b m s a).1 := by
    rw [step_of_reaches b m a c s h]
  refine ⟨same, ?_⟩
  rw [same]
  intro dropped
  cases a with
  | process e =>
    simp only [step] at dropped
    cases done : (c.last.process b m e s).1 with
    | error fault => simp [done, Except.map] at dropped
    | ok d =>
      obtain rfl := forwarded_of_last b m e c s done
      simp [done, Except.map] at dropped
  | flushIfDue =>
    simp only [step] at dropped
    cases done : (c.last.flushIfDue b m.now s).1 <;> simp [done, Except.map] at dropped
  | close =>
    simp only [step] at dropped
    cases done : (c.last.close b s).1 <;> simp [done, Except.map] at dropped

@[simp] theorem chainEnd_last (c : Collector) : c.last.chainEnd = c.chainEnd := by
  induction c with
  | memory _ _ | batches _ => rfl
  | exclusion _ _ ih | trackers _ _ ih | counting _ _ ih => exact ih

/-- A memory keeps what comes before it is closed. -/
theorem run_memory (b : Backend σ) (events : List Event) (closed : Bool) (s : σ)
    (requests : List (Moment × CollectorAction)) :
    (((memory events closed).run b s requests).1.chainEnd,
      ((memory events closed).run b s requests).2) =
      (ChainEnd.memory events closed).run b s requests := by
  induction requests generalizing events closed with
  | nil => cases closed <;> simp [run, chainEnd, ChainEnd.run, ChainEnd.eventsBeforeClose]
  | cons q rest ih =>
    obtain ⟨m, a⟩ := q
    cases a with
    | process e =>
      cases closed with
      | false =>
        refine (ih (events ++ [e]) false).trans ?_
        simp [ChainEnd.run, ChainEnd.eventsBeforeClose]
      | true => exact ih events true
    | flushIfDue =>
      refine (ih events closed).trans ?_
      simp [ChainEnd.run, ChainEnd.eventsBeforeClose]
    | close =>
      refine (ih events true).trans ?_
      simp [ChainEnd.run, ChainEnd.eventsBeforeClose]

theorem answers_memory (b : Backend σ) (events : List Event) (closed : Bool) (s : σ)
    (requests : List (Moment × CollectorAction)) :
    (memory events closed).answers b s requests = ChainEnd.memoryReplies closed requests := by
  induction requests generalizing events closed with
  | nil => rfl
  | cons q rest ih =>
    obtain ⟨m, a⟩ := q
    cases a with
    | process e =>
      cases closed with
      | false => exact congrArg _ (ih (events ++ [e]) false)
      | true => exact congrArg _ (ih events true)
    | flushIfDue => exact congrArg _ (ih events closed)
    | close => exact congrArg _ (ih events true)

theorem answers_batches (b : Backend σ) (c : BatchCollector) (s : σ)
    (requests : List (Moment × CollectorAction)) :
    (batches c).answers b s requests = c.replies b s requests := by
  induction requests generalizing c s with
  | nil => rfl
  | cons q rest ih =>
    obtain ⟨m, a⟩ := q
    rw [answers, BatchCollector.collector_step, BatchCollector.replies, ih]

/-- An end does as a chain what it does by itself. -/
theorem run_chainEnd (b : Backend σ) (c : Collector) (s : σ)
    (requests : List (Moment × CollectorAction)) :
    ((c.last.run b s requests).1.chainEnd, (c.last.run b s requests).2) =
      c.chainEnd.run b s requests := by
  induction c with
  | memory events closed => exact run_memory b events closed s requests
  | batches c =>
    rw [last, BatchCollector.run_batches]
    rfl
  | exclusion _ _ ih | trackers _ _ ih | counting _ _ ih => exact ih

theorem answers_chainEnd (b : Backend σ) (c : Collector) (s : σ)
    (requests : List (Moment × CollectorAction)) :
    c.last.answers b s requests = c.chainEnd.answers b s requests := by
  induction c with
  | memory events closed => exact answers_memory b events closed s requests
  | batches c => exact answers_batches b c s requests
  | exclusion _ _ ih | trackers _ _ ih | counting _ _ ih => exact ih

/-- The end of the chain does what it would do alone with the requests that get there. -/
theorem run_last (b : Backend σ) (c : Collector) (s : σ)
    (requests : List (Moment × CollectorAction)) :
    ((c.run b s requests).1.last, (c.run b s requests).2) =
      c.last.run b s (c.reaching requests) := by
  induction requests generalizing c s with
  | nil => rfl
  | cons q rest ih =>
    obtain ⟨m, a⟩ := q
    have later := ih (c.step b m s a).2.1 (c.step b m s a).2.2
    simp only [reaching, reaches_step] at later
    cases h : c.reaches a with
    | true =>
      obtain ⟨ends, state⟩ := step_last b m a c s h
      simp only [reaching, List.filter_cons, h, if_true, run]
      rw [later, ends, state]
    | false =>
      obtain ⟨-, same, still⟩ := step_unreached b m a c s h
      simp only [reaching, List.filter_cons, h, run]
      rw [later, same, still]
      rfl

theorem length_answers (b : Backend σ) (c : Collector) (s : σ)
    (requests : List (Moment × CollectorAction)) :
    (c.answers b s requests).length = requests.length := by
  induction requests generalizing c s with
  | nil => rfl
  | cons q rest ih => exact congrArg Nat.succ (ih _ _)

theorem dropped_iff (b : Backend σ) (c : Collector) (s : σ)
    (requests : List (Moment × CollectorAction)) :
    ∀ q ∈ requests.zip (c.answers b s requests),
      q.2 = .ok (some .dropped) ↔ c.reaches q.1.2 = false := by
  induction requests generalizing c s with
  | nil => simp [answers]
  | cons q rest ih =>
    obtain ⟨m, a⟩ := q
    intro q hq
    rcases List.mem_cons.mp hq with rfl | hq
    · cases h : c.reaches a with
      | true => simpa [h] using (step_reached b m a c s h).2
      | false => simpa [h] using (step_unreached b m a c s h).1
    · rw [← reaches_step b m a c s]
      exact ih _ _ q hq

theorem answers_last (b : Backend σ) (c : Collector) (s : σ)
    (requests : List (Moment × CollectorAction)) :
    ((requests.zip (c.answers b s requests)).filter fun q => c.reaches q.1.2).map Prod.snd =
      c.last.answers b s (c.reaching requests) := by
  induction requests generalizing c s with
  | nil => rfl
  | cons q rest ih =>
    obtain ⟨m, a⟩ := q
    have later := ih (c.step b m s a).2.1 (c.step b m s a).2.2
    simp only [reaching, reaches_step] at later
    cases h : c.reaches a with
    | true =>
      obtain ⟨ends, state⟩ := step_last b m a c s h
      simp only [reaching, answers, List.zip_cons_cons, List.filter_cons, h, if_true,
        List.map_cons]
      rw [later, (step_reached b m a c s h).1, ends, state]
    | false =>
      obtain ⟨-, same, still⟩ := step_unreached b m a c s h
      simp only [reaching, answers, List.zip_cons_cons, List.filter_cons, h, Bool.false_eq_true,
        if_false]
      rw [later, same, still]

theorem run_counters (b : Backend σ) (c : Collector) (s : σ)
    (requests : List (Moment × CollectorAction)) :
    (c.run b s requests).1.counters = c.counters.map fun q =>
      (q.1, q.2.recordAll (EventFilter.allPass c.filters)
        ((c.handled b s requests).filter (EventFilter.allPass q.1))) := by
  induction requests generalizing c s with
  | nil => exact (List.map_id _).symm
  | cons q rest ih =>
    obtain ⟨m, a⟩ := q
    have later := ih (c.step b m s a).2.1 (c.step b m s a).2.2
    rw [step_counters, List.map_map, step_filters] at later
    refine later.trans (List.map_congr_left fun q _ => ?_)
    simp only [Function.comp_apply, handled, List.filter_append, PacketCounts.recordAll,
      List.foldl_append]

/-- Chains of one end whose filters let the same events through answer alike. -/
theorem answers_congr (b : Backend σ) {c c' : Collector} (s : σ) (last : c'.last = c.last)
    (same : c'.reaches = c.reaches) (requests : List (Moment × CollectorAction)) :
    c'.answers b s requests = c.answers b s requests := by
  induction requests generalizing c c' s with
  | nil => rfl
  | cons q rest ih =>
    obtain ⟨m, a⟩ := q
    have kept : (c'.step b m s a).2.1.reaches = (c.step b m s a).2.1.reaches := by
      rw [reaches_step, reaches_step, same]
    cases h : c.reaches a with
    | true =>
      have h' : c'.reaches a = true := by rw [same, h]
      obtain ⟨ends, state⟩ := step_last b m a c s h
      obtain ⟨ends', state'⟩ := step_last b m a c' s h'
      rw [last] at ends' state'
      rw [answers, answers, (step_reached b m a c s h).1, (step_reached b m a c' s h').1, last,
        state, state', ih _ (ends'.trans ends.symm) kept]
    | false =>
      have h' : c'.reaches a = false := by rw [same, h]
      obtain ⟨answer, ends, state⟩ := step_unreached b m a c s h
      obtain ⟨answer', ends', state'⟩ := step_unreached b m a c' s h'
      rw [answers, answers, answer, answer', state, state',
        ih s (by rw [ends, ends', last]) kept]

theorem reaches_of_perm {c c' : Collector} (h : c'.filters.Perm c.filters) :
    c'.reaches = c.reaches := by
  funext a
  cases a with
  | process e => exact EventFilter.allPass_perm h e
  | flushIfDue => rfl
  | close => rfl

/-- How a counter has changed when these events were processed without an error: it has counted
those that passed all filters above it, and among them as forwarded those that passed every filter
of the chain. -/
def Counted (p : Event → Bool) (handled : List Event)
    (before after : List EventFilter × PacketCounts) : Prop :=
  after.1 = before.1 ∧ ∀ d k,
    let seen := handled.filter fun e =>
      EventFilter.allPass before.1 e && (e.direction = d && e.kind = k)
    after.2.get d k = (before.2.get d k).add
      ⟨seen.length, (seen.filter p).length, (seen.filter fun e => !p e).length⟩ ∧
    ((before.2.get d k).Balanced → (after.2.get d k).Balanced)

theorem counted_recordAll (p : Event → Bool) (handled : List Event)
    (q : List EventFilter × PacketCounts) :
    Counted p handled q
      (q.1, q.2.recordAll p (handled.filter (EventFilter.allPass q.1))) := by
  refine ⟨rfl, fun d k => ?_⟩
  have grown := q.2.get_recordAll p (handled.filter (EventFilter.allPass q.1)) d k
  rw [List.filter_filter] at grown
  simp only [Bool.and_comm (decide _ && decide _)] at grown
  refine ⟨grown, fun balanced => ?_⟩
  dsimp only
  rw [grown]
  exact balanced.add (Bucket.tally_balanced _ _)

/-- A chain is its end behind the conjunction of its filters. An event is dropped exactly when some
filter drops it; every other request gets to the end, the end does with it what it does by itself, and
its answer is the chain's. So the order of the stages and the counters change no answer. Each counter
counts what comes by. -/
theorem run_is_conjunction (b : Backend σ) (c : Collector) (s : σ)
    (requests : List (Moment × CollectorAction)) :
    let after := c.run b s requests
    let answered := requests.zip (c.answers b s requests)
    (after.1.chainEnd, after.2) = c.chainEnd.run b s (c.reaching requests) ∧
    (c.answers b s requests).length = requests.length ∧
    (∀ q ∈ answered, q.2 = .ok (some .dropped) ↔ c.reaches q.1.2 = false) ∧
    (answered.filter fun q => c.reaches q.1.2).map Prod.snd =
      c.chainEnd.answers b s (c.reaching requests) ∧
    List.Forall₂ (Counted (EventFilter.allPass c.filters) (c.handled b s requests)) c.counters
      after.1.counters ∧
    ∀ c' : Collector, c'.last = c.last → c'.filters.Perm c.filters →
      c'.answers b s requests = c.answers b s requests ∧
      ((c'.run b s requests).1.last, (c'.run b s requests).2) = (after.1.last, after.2) := by
  intro after answered
  refine ⟨?_, length_answers b c s requests, dropped_iff b c s requests, ?_, ?_, ?_⟩
  · have ends := run_last b c s requests
    rw [← run_chainEnd, ← ends, chainEnd_last]
  · rw [← answers_chainEnd]
    exact answers_last b c s requests
  · have counters := run_counters b c s requests
    rw [counters, List.forall₂_map_right_iff]
    exact List.forall₂_same.mpr fun q _ => counted_recordAll _ _ q
  · intro c' last perm
    have same := reaches_of_perm perm
    refine ⟨answers_congr b s last same requests, ?_⟩
    rw [run_last, run_last, reaching, reaching, same, last]

/-- A counter and two filters before an end that submits batches, and the filters alone in another
order. The first event that passes is submitted when it is old enough, the second one at the end. -/
theorem run_is_conjunction_reordered :
    let e (host path : String) : Event := .request "GET" host path .epoch
    let rules : ExclusionRules := ⟨[], [.literal ['x']]⟩
    let sink := batches (.start .nil .nil .nil .standard)
    let c := counting .empty (trackers false (exclusion rules sink))
    let c' := exclusion rules (trackers false sink)
    let s : Script := ⟨.ok [], .ok [], [], [], 0, fun _ => .nil⟩
    let late : Instant := BatchPolicy.standard.maxAge.nanos
    let requests : List (Moment × CollectorAction) :=
      [(⟨0, .nil⟩, .process (e "shop.example" "/x")), (⟨0, .nil⟩, .process (e "a.sentry.io" "/")),
        (⟨0, .nil⟩, .process (e "shop.example" "/")), (⟨late, .nil⟩, .flushIfDue),
        (⟨late, .nil⟩, .process (e "shop.example" "/")), (⟨late, .nil⟩, .close),
        (⟨late, .nil⟩, .process (e "shop.example" "/"))]
    c'.last = c.last ∧ c'.filters.Perm c.filters ∧
    c'.answers Backend.scripted s requests = [.ok (some .dropped), .ok (some .dropped),
      .ok (some .forwarded), .ok none, .ok (some .forwarded), .ok none, .error .closed] ∧
    (c'.run Backend.scripted s requests).1.last.accepted = (2, 2) := by
  intro e rules sink c c' s late requests
  have last : c'.last = c.last := rfl
  have perm : c'.filters.Perm c.filters := .swap _ _ _
  have answers : c.answers Backend.scripted s requests = [.ok (some .dropped),
      .ok (some .dropped), .ok (some .forwarded), .ok none, .ok (some .forwarded), .ok none,
      .error .closed] := by
    decide +kernel
  have accepted : (c.run Backend.scripted s requests).1.last.accepted = (2, 2) := by
    decide +kernel
  obtain ⟨-, -, -, -, -, alike⟩ := run_is_conjunction Backend.scripted c s requests
  obtain ⟨answers', ended⟩ := alike c' last perm
  obtain ⟨sameEnd, -⟩ := Prod.mk.inj ended
  refine ⟨last, perm, answers'.trans answers, ?_⟩
  rw [sameEnd]
  exact accepted

end Collector

end TrafficTrace
