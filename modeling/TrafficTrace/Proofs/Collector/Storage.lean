import TrafficTrace.Backend.Script
import TrafficTrace.Proofs.Collector.Content
import TrafficTrace.Proofs.Collector.Finality
import TrafficTrace.Proofs.Collector.Ledger
import TrafficTrace.Proofs.Collector.Requests

/-!
# Batches in the store of a backend

A backend stores a batch once, by its identifier, and may have stored it when it reports an error.
While a collector has lost no batch, the store holds the batches that were accepted and nothing
else: a batch that is submitted again has the identifier it had, and no two batches of different
events have one identifier in common unless their digests collide.
-/
namespace TrafficTrace

variable {σ : Type}

namespace Backend

/-- A batch is stored unless one of its identifier is there. -/
def remember (l : List EventBatch) (batch : EventBatch) : List EventBatch :=
  if l.any fun x => x.batchId = batch.batchId then l else l ++ [batch]

theorem remember_new {l : List EventBatch} {batch : EventBatch}
    (new : ∀ x ∈ l, x.batchId ≠ batch.batchId) : remember l batch = l ++ [batch] := by
  rw [remember, if_neg]
  simpa using new

/-- A batch that is stored already changes nothing. -/
theorem remember_again (l : List EventBatch) (batch : EventBatch) :
    remember (l ++ [batch]) batch = l ++ [batch] := by
  rw [remember, if_pos]
  simp

/-- What a backend has stored for each trace. An append applies the batch or fails, and it may do
both. -/
structure Deduplicates (b : Backend σ) (stored : σ → TraceId → List EventBatch) : Prop where
  append (service : ServiceId) (trace : TraceId) (batch : EventBatch) (s : σ) :
    let answer := b.appendEvents service trace batch s
    stored answer.2 = Function.update (stored s) trace (remember (stored s trace) batch) ∨
      (Stamped.faultOf answer.1).isSome ∧ stored answer.2 = stored s

theorem Deduplicates.append_cases {b : Backend σ} {stored : σ → TraceId → List EventBatch}
    (dedup : b.Deduplicates stored) (service : ServiceId) (trace : TraceId) (batch : EventBatch)
    (s : σ) :
    stored (b.appendEvents service trace batch s).2 trace = remember (stored s trace) batch ∨
      (Stamped.faultOf (b.appendEvents service trace batch s).1).isSome ∧
        stored (b.appendEvents service trace batch s).2 trace = stored s trace := by
  rcases dedup.append service trace batch s with applied | ⟨failed, untouched⟩
  · left
    rw [applied, Function.update_self]
  · exact .inr ⟨failed, by rw [untouched]⟩

/-- A store behind the answers of any backend. An append that is answered without an error is
applied; `applies` tells which of the others are. -/
def storing (b : Backend σ) (applies : σ → Bool) : Backend (σ × (TraceId → List EventBatch)) where
  listServices s := ((b.listServices s.1).1, (b.listServices s.1).2, s.2)
  listTraces service tags s :=
    ((b.listTraces service tags s.1).1, (b.listTraces service tags s.1).2, s.2)
  createTrace service request s :=
    ((b.createTrace service request s.1).1, (b.createTrace service request s.1).2, s.2)
  appendEvents service trace batch s :=
    let (answer, t) := b.appendEvents service trace batch s.1
    let applied := (Stamped.faultOf answer).isNone || applies s.1
    (answer, t, if applied then Function.update s.2 trace (remember (s.2 trace) batch) else s.2)

theorem storing_deduplicates (b : Backend σ) (applies : σ → Bool) :
    (b.storing applies).Deduplicates Prod.snd := by
  constructor
  intro service trace batch s answer
  by_cases applied :
      ((Stamped.faultOf (b.appendEvents service trace batch s.1).1).isNone || applies s.1) = true
  · exact .inl (if_pos applied)
  · refine .inr ⟨?_, if_neg applied⟩
    simp only [Bool.or_eq_true, not_or, Option.isNone_iff_eq_none] at applied
    exact Option.isSome_iff_ne_none.mpr applied.1

/-- Different contents of submitted batches have different digests. -/
def CollisionFree (trace : TraceId) (calls : List CallRecord) : Prop :=
  ∀ x ∈ submittedBatches calls, ∀ y ∈ submittedBatches calls,
    Digest.sha256Hex (batchContent trace x.events) =
      Digest.sha256Hex (batchContent trace y.events) →
    batchContent trace x.events = batchContent trace y.events

theorem CollisionFree.of_append {trace : TraceId} {calls more : List CallRecord}
    (h : CollisionFree trace (calls ++ more)) : CollisionFree trace calls := by
  have sub {x : EventBatch} (hx : x ∈ submittedBatches calls) :
      x ∈ submittedBatches (calls ++ more) := by
    rw [submittedBatches_append]
    exact List.mem_append_left _ hx
  exact fun x hx y hy => h x (sub hx) y (sub hy)

theorem mem_submittedBatches_of_mem_acceptedBatches {calls : List CallRecord} {x : EventBatch}
    (h : x ∈ acceptedBatches calls) : x ∈ submittedBatches calls := by
  obtain ⟨r, hr, batch⟩ := List.mem_filterMap.mp h
  exact List.mem_filterMap.mpr ⟨r, List.mem_of_mem_filter hr, batch⟩

end Backend

namespace BatchCollector

open Backend

variable {b : Backend σ} {stored : σ → TraceId → List EventBatch}

/-- A submission that succeeds has stored the batch once, however often it was made and whatever was
applied when it failed. -/
theorem submit_stored (dedup : b.Deduplicates stored) {c : BatchCollector} {batch : EventBatch}
    {w : Stamped σ} (new : ∀ x ∈ stored w.state c.trace, x.batchId ≠ batch.batchId)
    (ok : Stamped.faultOf (submit b.stamped c batch w).1 = none) :
    stored (submit b.stamped c batch w).2.state c.trace = stored w.state c.trace ++ [batch] := by
  have first := dedup.append_cases c.service c.trace batch w.state
  rw [submit, stamped_appendEvents] at ok ⊢
  rcases sent : b.appendEvents c.service c.trace batch w.state with ⟨e | response, s⟩
  · rw [sent] at first
    simp only [sent] at ok ⊢
    by_cases passing : e.isRetryable = true
    · rw [if_pos passing, stamped_appendEvents] at ok ⊢
      have second := (dedup.append_cases c.service c.trace batch s).resolve_right
        fun failed => by simp [ok] at failed
      refine second.trans ?_
      rcases first with applied | ⟨-, untouched⟩
      · rw [applied, remember_new new, remember_again]
      · rw [untouched, remember_new new]
    · rw [if_neg passing] at ok
      cases ok
  · rw [sent] at first
    rcases first with applied | ⟨failed, -⟩
    · exact applied.trans (remember_new new)
    · cases failed

/-- Submitted batches carry the identifiers of their events. -/
def Named (trace : TraceId) (calls : List CallRecord) : Prop :=
  ∀ x ∈ submittedBatches calls, x.batchId = batchId trace x.events

/-- What is stored for a trace is what was accepted, if the events differ in their texts and no
digests collide. -/
def Kept (stored : σ → TraceId → List EventBatch) (trace : TraceId) (w : Stamped σ)
    (taken : List Event) : Prop :=
  (taken.map Event.toText).Nodup → CollisionFree trace w.calls →
    stored w.state trace = acceptedBatches w.calls

theorem Kept.of_append {trace : TraceId} {w : Stamped σ} {taken more : List Event}
    (h : Kept stored trace w taken) : Kept stored trace w (taken ++ more) := by
  intro distinct
  rw [List.map_append] at distinct
  exact h distinct.of_append_left

variable {c : BatchCollector} {w : Stamped σ} {taken : List Event}

/-- The batch that is about to be submitted has an identifier of its own. -/
theorem batchId_ne_of_accepted (accounts : Accounts c w.calls taken) (isOpen : c.phase = .open_)
    (named : Named c.trace w.calls) (filled : c.buffer ≠ [])
    (distinct : (taken.map Event.toText).Nodup)
    (free : ∀ x ∈ acceptedBatches w.calls,
      Digest.sha256Hex (batchContent c.trace x.events) =
        Digest.sha256Hex (batchContent c.trace c.buffer) →
      batchContent c.trace x.events = batchContent c.trace c.buffer) :
    ∀ x ∈ acceptedBatches w.calls, x.batchId ≠ c.batch.batchId := by
  intro x hx same
  have submitted := mem_submittedBatches_of_mem_acceptedBatches hx
  rw [named x submitted] at same
  have texts := texts_eq_of_batchContent (free x hx same)
  have conserved : acceptedEvents w.calls ++ c.buffer = taken := by
    have := accounts.conserved
    simpa [lostEvents, accounts.lostBatch?_eq_none isOpen] using this
  rw [← conserved, List.map_append, List.nodup_append] at distinct
  -- the first event of the buffer would be one of the accepted batch
  obtain ⟨e, rest, buffer⟩ := List.exists_cons_of_ne_nil filled
  have here : e.toText ∈ c.buffer.map Event.toText := by
    rw [buffer]
    exact List.mem_cons_self
  have there : e.toText ∈ (acceptedEvents w.calls).map Event.toText := by
    rw [← texts] at here
    obtain ⟨f, hf, text⟩ := List.mem_map.mp here
    exact List.mem_map.mpr ⟨f, List.mem_flatMap.mpr ⟨x, hx, hf⟩, text⟩
  exact distinct.2.2 _ there _ here rfl

/-- Where the collector sends, what its batches are called and, while none is lost, what is stored. -/
structure Mirror (stored : σ → TraceId → List EventBatch) (trace : TraceId) (c : BatchCollector)
    (w : Stamped σ) (taken : List Event) : Prop where
  target : c.trace = trace
  named : Named trace w.calls
  kept : c.phase ≠ .poisoned → Kept stored trace w taken

theorem mirror_start (service : ServiceId) (trace : TraceId) (client : Uuid) (policy : BatchPolicy)
    {s : σ} (fresh : stored s trace = []) :
    Mirror stored trace (start service trace client policy) (.start s) [] where
  target := rfl
  named := by simp [Named, Stamped.start, submittedBatches]
  kept := fun _ _ _ => fresh

namespace Mirror

variable {trace : TraceId}

theorem more (h : Mirror stored trace c w taken) (more : List Event) :
    Mirror stored trace c w (taken ++ more) :=
  { h with kept := fun alive => (h.kept alive).of_append }

theorem flush (h : Mirror stored trace c w taken) (dedup : b.Deduplicates stored)
    (accounts : Accounts c w.calls taken) (isOpen : c.phase = .open_) :
    Mirror stored trace (flush b.stamped c w).2.1 (flush b.stamped c w).2.2 taken := by
  obtain ⟨rfl, named, kept⟩ := h
  rcases flush_cases b c w with ⟨_, same⟩ | ⟨filled, sent, w', log, outcome⟩
  · rw [same]
    exact ⟨rfl, named, kept⟩
  · have renamed {fault : Option TransportError}
        (attempts : Attempts (.appendEvents c.service c.trace c.batch) fault sent) :
        Named c.trace w'.calls := by
      intro x hx
      rw [log, submittedBatches_append] at hx
      rcases List.mem_append.mp hx with hx | hx
      · exact named x hx
      · rw [attempts.eq_of_mem_submittedBatches x hx]
        rfl
    rcases outcome with ⟨attempts, done⟩ | ⟨e, attempts, done⟩
    · rw [done]
      refine ⟨rfl, renamed attempts, fun _ distinct free => ?_⟩
      obtain ⟨landed, answered⟩ := flush_filled (b := b.stamped) filled w
      rw [done] at landed answered
      have accepted : acceptedBatches sent = [c.batch] := by simpa using attempts.acceptedBatches_eq
      have submitted : acceptedBatches w'.calls = acceptedBatches w.calls ++ [c.batch] := by
        rw [log, acceptedBatches_append, accepted]
      have mem {x : EventBatch} (hx : x ∈ acceptedBatches w.calls ++ [c.batch]) :
          x ∈ submittedBatches w'.calls :=
        mem_submittedBatches_of_mem_acceptedBatches (submitted ▸ hx)
      have alive : c.phase ≠ .poisoned := by simp [isOpen]
      have before := kept alive distinct (CollisionFree.of_append (log ▸ free))
      have new := batchId_ne_of_accepted accounts isOpen named filled distinct fun x hx =>
        free x (mem (List.mem_append_left _ hx)) c.batch (mem (by simp))
      rw [← before] at new
      have after := submit_stored dedup new (answered rfl)
      rw [← landed] at after
      exact after.trans (by rw [before, submitted])
    · rw [done]
      exact ⟨rfl, renamed attempts, fun alive => absurd rfl alive⟩

theorem process (h : Mirror stored trace c w taken) (dedup : b.Deduplicates stored)
    (ledger : Ledger c w.calls taken) (m : Moment) (e : Event) :
    Mirror stored trace (process b.stamped m e c w).2.1 (process b.stamped m e c w).2.2
      (taken ++ if c.phase = .open_ then [e.identified m.fresh] else []) := by
  rw [BatchCollector.process]
  cases phase : c.phase with
  | poisoned => exact h.more _
  | closed => exact h.more _
  | open_ =>
    obtain ⟨accounts, -⟩ := ledger.push phase m.now (e.identified m.fresh)
    have grown := h.more [e.identified m.fresh]
    have pushed : Mirror stored trace (c.push m.now (e.identified m.fresh)) w
        (taken ++ [e.identified m.fresh]) := ⟨grown.target, grown.named, grown.kept⟩
    simp only [if_true]
    split
    · exact pushed.flush dedup accounts phase
    · exact pushed

theorem flushIfDue (h : Mirror stored trace c w taken) (dedup : b.Deduplicates stored)
    (ledger : Ledger c w.calls taken) (now : Instant) :
    Mirror stored trace (flushIfDue b.stamped now c w).2.1 (flushIfDue b.stamped now c w).2.2
      taken := by
  rw [BatchCollector.flushIfDue]
  cases phase : c.phase with
  | poisoned => exact h
  | closed => exact h
  | open_ =>
    simp only
    split
    · exact h.flush dedup ledger.toAccounts phase
    · exact h

theorem close (h : Mirror stored trace c w taken) (dedup : b.Deduplicates stored)
    (ledger : Ledger c w.calls taken) :
    Mirror stored trace (close b.stamped c w).2.1 (close b.stamped c w).2.2 taken := by
  rw [BatchCollector.close]
  cases phase : c.phase with
  | poisoned => exact h
  | closed => exact h
  | open_ =>
    have flushed := h.flush dedup ledger.toAccounts phase
    rcases flush_cases b c w with ⟨_, done⟩ | ⟨_, _, _, _, ⟨_, done⟩ | ⟨_, _, done⟩⟩
    · rw [done] at flushed ⊢
      exact { flushed with kept := fun _ => flushed.kept (by simp [phase]) }
    · rw [done] at flushed ⊢
      have alive : (c.emptied.accepted c.buffer.length).phase ≠ .poisoned := by
        simp [BatchCollector.accepted, emptied, phase]
      exact { flushed with kept := fun _ => flushed.kept alive }
    · rw [done] at flushed ⊢
      exact flushed

theorem step (h : Mirror stored trace c w taken) (dedup : b.Deduplicates stored)
    (ledger : Ledger c w.calls taken) (m : Moment) (a : CollectorAction) :
    Mirror stored trace (step b.stamped m c w a).1 (step b.stamped m c w a).2
      (taken ++ identifiedEvents (c.handed m a)) := by
  cases a with
  | process e =>
    have same : identifiedEvents (c.handed m (.process e)) =
        if c.phase = .open_ then [e.identified m.fresh] else [] := by
      simp only [handed]
      split <;> rfl
    rw [same]
    exact h.process dedup ledger m e
  | flushIfDue =>
    rw [handed, identifiedEvents, List.map_nil, List.append_nil]
    exact h.flushIfDue dedup ledger m.now
  | close =>
    rw [handed, identifiedEvents, List.map_nil, List.append_nil]
    exact h.close dedup ledger

theorem run (h : Mirror stored trace c w taken) (dedup : b.Deduplicates stored)
    (ledger : Ledger c w.calls taken) (requests : List (Moment × CollectorAction)) :
    Mirror stored trace (run b.stamped c w requests).1 (run b.stamped c w requests).2
      (taken ++ identifiedEvents (offered b.stamped c w requests)) := by
  induction requests generalizing c w taken with
  | nil =>
    rw [offered, identifiedEvents, List.map_nil, List.append_nil]
    exact h
  | cons q rest ih =>
    obtain ⟨m, a⟩ := q
    obtain ⟨sent, log, stepped⟩ := ledger.step b m a w
    rw [← log] at stepped
    rw [offered, identifiedEvents, List.map_append, ← List.append_assoc]
    exact ih (h.step dedup ledger m a) stepped

end Mirror

/-- The events of the requests, whether or not they were taken. -/
def passed (requests : List (Moment × CollectorAction)) : List (Moment × Event) :=
  requests.filterMap fun q => match q.2 with
    | .process e => some (q.1, e)
    | .flushIfDue | .close => none

theorem phase_flush (b : Backend σ) (c : BatchCollector) (s : σ) :
    (flush b c s).2.1.phase = c.phase ∨ (flush b c s).2.1.phase = .poisoned := by
  rw [flush]
  split
  · exact .inl rfl
  · split
    · exact .inl rfl
    · exact .inr rfl

/-- Only closing closes a collector. -/
theorem phase_step (b : Backend σ) (m : Moment) {c : BatchCollector} (isOpen : c.phase = .open_)
    (s : σ) {a : CollectorAction} (further : a ≠ .close) :
    (step b m c s a).1.phase = .open_ ∨ (step b m c s a).1.phase = .poisoned := by
  cases a with
  | process e =>
    simp only [step, process, isOpen]
    split
    · have outcome := phase_flush b (c.push m.now (e.identified m.fresh)) s
      rwa [show (c.push m.now (e.identified m.fresh)).phase = .open_ from isOpen] at outcome
    · exact .inl isOpen
  | flushIfDue =>
    simp only [step, flushIfDue, isOpen]
    split
    · have outcome := phase_flush b c s
      rwa [isOpen] at outcome
    · exact .inl isOpen
  | close => exact absurd rfl further

theorem run_poisoned (b : Backend σ) {c : BatchCollector} (poisoned : c.phase = .poisoned) (s : σ)
    (requests : List (Moment × CollectorAction)) : run b c s requests = (c, s) :=
  (run_of_fixed (fun m a => request_of_poisoned poisoned b m s a) requests).1

/-- Before it is closed a collector takes every event, unless a batch is lost. -/
theorem offered_eq_passed (b : Backend σ) {c : BatchCollector} (isOpen : c.phase = .open_) (s : σ)
    {requests : List (Moment × CollectorAction)} (unclosed : ∀ q ∈ requests, q.2 ≠ .close)
    (alive : (run b c s requests).1.phase ≠ .poisoned) :
    offered b c s requests = passed requests := by
  induction requests generalizing c s with
  | nil => rfl
  | cons q rest ih =>
    obtain ⟨m, a⟩ := q
    have others : ∀ q ∈ rest, q.2 ≠ .close := fun q hq => unclosed q (List.mem_cons_of_mem _ hq)
    have later : offered b (step b m c s a).1 (step b m c s a).2 rest = passed rest := by
      rcases phase_step b m isOpen s (unclosed _ List.mem_cons_self) with still | lost
      · exact ih still _ others alive
      · rw [run, run_poisoned b lost] at alive
        exact absurd lost alive
    rw [offered, later]
    cases a with
    | process e =>
      rw [handed, if_pos isOpen]
      rfl
    | flushIfDue => rfl
    | close => rfl

theorem isWellFormed_identified {e : Event} (h : e.IsWellFormed) (fresh : Uuid) :
    (e.identified fresh).IsWellFormed := by
  rw [Event.identified]
  split
  · exact h
  · exact ⟨h.moment, h.numbers⟩

theorem nodup_texts {l : List (Moment × Event)} (wellFormed : ∀ q ∈ l, q.2.IsWellFormed)
    (distinct : (identifiedEvents l).Nodup) : ((identifiedEvents l).map Event.toText).Nodup := by
  have sound : ∀ e ∈ identifiedEvents l, e.IsWellFormed := by
    intro e he
    obtain ⟨q, hq, rfl⟩ := List.mem_map.mp he
    exact isWellFormed_identified (wellFormed q hq) q.1.fresh
  refine List.Nodup.map_on (fun e he f hf same => ?_) distinct
  exact Event.toText_injective (sound e he) (sound f hf) same

/-- Closing with success has left nothing behind: all that was taken was accepted. -/
theorem Ledger.accepted_of_closed {calls : List CallRecord} (h : Ledger c calls taken)
    (closed : c.phase = .closed) : acceptedEvents calls = taken := by
  have still : c.phase ≠ .open_ := by simp [closed]
  have kept : lostBatch? calls = none := by
    rw [← Option.not_isSome_iff_eq_none, h.lost_iff, closed]
    simp
  have conserved := h.conserved
  rwa [h.idle still, lostEvents, kept, List.append_nil, Option.toList_none, List.flatMap_nil,
    List.append_nil] at conserved

/-- A run that ends in a close with success has stored every event once, in order, whatever was
applied and reported as an error meanwhile. The events are as they can come about and differ once
they have identifiers, and no digests collide. Unless the collector was closed before, these are all the
events that it was given. -/
theorem close_stores_once {b : Backend σ} {stored : σ → TraceId → List EventBatch}
    (dedup : b.Deduplicates stored) (service : ServiceId) (trace : TraceId) (client : Uuid)
    (policy : BatchPolicy) (s : σ) (fresh : stored s trace = [])
    (requests : List (Moment × CollectorAction)) :
    let first := start service trace client policy
    let last := run b.stamped first (.start s) requests
    let ended := close b.stamped last.1 last.2
    let events := offered b.stamped first (.start s) requests
    ended.1 = .ok () →
    (∀ q ∈ events, q.2.IsWellFormed) →
    (identifiedEvents events).Nodup →
    CollisionFree trace ended.2.2.calls →
    (stored ended.2.2.state trace).flatMap EventBatch.events = identifiedEvents events ∧
    List.Forall₂ Event.SentAs (events.map Prod.snd) (identifiedEvents events) ∧
    ((∀ q ∈ requests, q.2 ≠ .close) → events = passed requests) := by
  intro first last ended events ok wellFormed distinct free
  have begun := ledger_start service trace client policy
  have mirror := (mirror_start service trace client policy fresh).run dedup begun requests
  obtain ⟨sent, log, ledger⟩ := begun.run b requests (.start s)
  have calls : last.2.calls = sent := log
  rw [List.nil_append, List.nil_append, ← calls] at ledger
  rw [List.nil_append] at mirror
  obtain ⟨rest, log', settled⟩ := ledger.close b last.2
  rw [← log'] at settled
  have closing : Mirror stored trace ended.2.1 ended.2.2 (identifiedEvents events) :=
    mirror.close dedup ledger
  have closed : ended.2.1.phase = .closed := phase_of_close_ok ok
  refine ⟨?_, sentAs_identifiedEvents events, fun unclosed => ?_⟩
  · rw [closing.kept (by simp [closed]) (nodup_texts wellFormed distinct) free]
    exact settled.accepted_of_closed closed
  · refine offered_eq_passed b.stamped rfl _ unclosed fun poisoned => ?_
    have refused : ended.1 = .error .poisoned := by
      simp only [ended, close, last, first, poisoned]
    rw [refused] at ok
    cases ok

/-- Batches of one event. The first try of each fails; for the first batch it was applied, for the
second it was not. -/
theorem close_stores_once_resubmitted :
    let e (path : String) : Event :=
      (Event.request "GET" "shop.example" path .epoch).withRequestId "7"
    let b := scripted.storing fun s => s.appends.length = 4
    let script : Script :=
      ⟨.ok [], .ok [], [], [some (.timeout 5), none, some (.timeout 5), none], 0, fun _ => .nil⟩
    let requests := [(⟨0, .nil⟩, .process (e "/cart")), (⟨1, .nil⟩, .process (e "/order"))]
    let last := run b.stamped (start .nil .nil .nil ⟨1, .ofSecs 5⟩) (.start (script, fun _ => []))
      requests
    let ended := close b.stamped last.1 last.2
    ended.1 = .ok () ∧ (submittedBatches ended.2.2.calls).length = 4 ∧
    (ended.2.2.state.2 .nil).flatMap EventBatch.events = [e "/cart", e "/order"] := by
  intro e b script requests last ended
  have ok : ended.1 = .ok () := rfl
  have sent : ∀ x ∈ submittedBatches ended.2.2.calls,
      x.events = [e "/cart"] ∨ x.events = [e "/order"] := by decide +kernel
  have differ : Digest.sha256Hex (batchContent .nil [e "/cart"]) ≠
      Digest.sha256Hex (batchContent .nil [e "/order"]) := by decide +kernel
  have free : CollisionFree .nil ended.2.2.calls := by
    intro x hx y hy same
    rcases sent x hx with hx | hx <;> rcases sent y hy with hy | hy <;> rw [hx, hy] at same ⊢
    · exact absurd same differ
    · exact absurd same.symm differ
  have stores := close_stores_once (storing_deduplicates scripted _) .nil .nil .nil ⟨1, .ofSecs 5⟩
    (script, fun _ => []) rfl requests ok (by decide +kernel) (by decide +kernel) free
  exact ⟨ok, rfl, stores.1⟩

end BatchCollector

end TrafficTrace
