import Mathlib.Algebra.GroupWithZero.Nat
import Mathlib.Data.List.Chain
import TrafficTrace.Backend

/-!
# Logs of calls

What a log of calls says about batches: which were sent, which the backend accepted and which was
lost. The views read the recorded calls and answers only, not the collector that made them.
-/
namespace TrafficTrace.Backend

variable {σ : Type}

def CallRecord.batch? (r : CallRecord) : Option EventBatch :=
  match r.call with
  | .appendEvents _ _ batch => some batch
  | _ => none

/-- The batches of all append calls; one that was sent again is there again. -/
def submittedBatches (calls : List CallRecord) : List EventBatch :=
  calls.filterMap CallRecord.batch?

/-- The batches whose append call was answered without an error. -/
def acceptedBatches (calls : List CallRecord) : List EventBatch :=
  submittedBatches (calls.filter fun r => r.fault.isNone)

def acceptedEvents (calls : List CallRecord) : List Event :=
  (acceptedBatches calls).flatMap EventBatch.events

/-- The batch of the last call, if that call failed: no other call followed for it. -/
def lostBatch? (calls : List CallRecord) : Option EventBatch :=
  calls.getLast?.bind fun r => if r.fault.isSome then r.batch? else none

def lostEvents (calls : List CallRecord) : List Event :=
  (lostBatch? calls).toList.flatMap EventBatch.events

/-- A failure that is followed by anything may pass, and what follows it is the same call. -/
def Retried (r next : CallRecord) : Prop :=
  ∀ e, r.fault = some e → e.isRetryable = true ∧ next.call = r.call

@[simp] theorem submittedBatches_append (l m : List CallRecord) :
    submittedBatches (l ++ m) = submittedBatches l ++ submittedBatches m := List.filterMap_append

@[simp] theorem acceptedBatches_append (l m : List CallRecord) :
    acceptedBatches (l ++ m) = acceptedBatches l ++ acceptedBatches m := by
  simp [acceptedBatches]

@[simp] theorem acceptedEvents_append (l m : List CallRecord) :
    acceptedEvents (l ++ m) = acceptedEvents l ++ acceptedEvents m := by
  simp [acceptedEvents]

theorem lostBatch?_append {l m : List CallRecord} (h : m ≠ []) :
    lostBatch? (l ++ m) = lostBatch? m := by
  simp only [lostBatch?, List.getLast?_append_of_ne_nil l h]

theorem lostEvents_append {l m : List CallRecord} (h : m ≠ []) :
    lostEvents (l ++ m) = lostEvents m := by
  rw [lostEvents, lostEvents, lostBatch?_append h]

theorem length_acceptedEvents (calls : List CallRecord) :
    (acceptedEvents calls).length = ((acceptedBatches calls).map fun x => x.events.length).sum :=
  List.length_flatMap

/-- The records of one call that is made again when it fails in passing. `fault` is what the last of
them was answered. -/
inductive Attempts (call : BackendCall) (fault : Option TransportError) :
    List CallRecord → Prop where
  | once (time : Instant) (lasting : ∀ e, fault = some e → e.isRetryable = false) :
      Attempts call fault [⟨time, call, fault⟩]
  | again (first second : Instant) (e : TransportError) (passing : e.isRetryable = true) :
      Attempts call fault [⟨first, call, some e⟩, ⟨second, call, fault⟩]

namespace Attempts

variable {call : BackendCall} {fault : Option TransportError} {sent : List CallRecord}

theorem ne_nil (h : Attempts call fault sent) : sent ≠ [] := by
  cases h <;> exact List.cons_ne_nil _ _

theorem call_eq (h : Attempts call fault sent) : ∀ r ∈ sent, r.call = call := by
  cases h <;> simp

theorem isChain (h : Attempts call fault sent) : sent.IsChain Retried := by
  cases h with
  | once time lasting => exact .singleton _
  | again first second e passing =>
    refine .cons_cons ?_ (.singleton _)
    rintro e' ⟨⟩
    exact ⟨passing, rfl⟩

variable {service : ServiceId} {trace : TraceId} {batch : EventBatch}

theorem eq_of_mem_submittedBatches (h : Attempts (.appendEvents service trace batch) fault sent) :
    ∀ x ∈ submittedBatches sent, x = batch := by
  cases h <;> simp [submittedBatches, CallRecord.batch?]

theorem acceptedBatches_eq (h : Attempts (.appendEvents service trace batch) fault sent) :
    acceptedBatches sent = if fault.isNone then [batch] else [] := by
  cases h <;> cases fault <;> simp [acceptedBatches, submittedBatches, CallRecord.batch?]

theorem lostBatch?_eq (h : Attempts (.appendEvents service trace batch) fault sent) :
    lostBatch? sent = if fault.isSome then some batch else none := by
  cases h <;> simp [lostBatch?, CallRecord.batch?]

theorem lostBatch?_isSome (h : Attempts (.appendEvents service trace batch) fault sent) :
    (lostBatch? sent).isSome ↔ fault.isSome := by
  rw [h.lostBatch?_eq]
  split <;> simp_all

/-- Accepted or lost, the events of the batch are counted once. -/
theorem events_eq (h : Attempts (.appendEvents service trace batch) fault sent) :
    acceptedEvents sent ++ lostEvents sent = batch.events := by
  rw [acceptedEvents, lostEvents, h.acceptedBatches_eq, h.lostBatch?_eq]
  cases fault <;> simp

end Attempts

@[simp] theorem stamped_createTrace (b : Backend σ) (service : ServiceId)
    (request : CreateTraceRequest) (w : Stamped σ) :
    b.stamped.createTrace service request w =
      ((b.createTrace service request w.state).1,
        { w with
          state := (b.createTrace service request w.state).2
          calls := w.calls ++ [⟨w.now, .createTrace service request,
            Stamped.faultOf (b.createTrace service request w.state).1⟩] }) := rfl

@[simp] theorem stamped_appendEvents (b : Backend σ) (service : ServiceId) (trace : TraceId)
    (batch : EventBatch) (w : Stamped σ) :
    b.stamped.appendEvents service trace batch w =
      ((b.appendEvents service trace batch w.state).1,
        { w with
          state := (b.appendEvents service trace batch w.state).2
          calls := w.calls ++ [⟨w.now, .appendEvents service trace batch,
            Stamped.faultOf (b.appendEvents service trace batch w.state).1⟩] }) := rfl

/-- The calls that were made between two states. -/
def Logged (w w' : Stamped σ) (calls : List BackendCall) : Prop :=
  ∃ records, w'.calls = w.calls ++ records ∧ records.map CallRecord.call = calls

namespace Logged

variable {w w' w'' : Stamped σ} {calls more : List BackendCall}

theorem refl (w : Stamped σ) : Logged w w [] := ⟨[], (List.append_nil _).symm, rfl⟩

theorem trans (h : Logged w w' calls) (h' : Logged w' w'' more) :
    Logged w w'' (calls ++ more) := by
  obtain ⟨records, log, rfl⟩ := h
  obtain ⟨records', log', rfl⟩ := h'
  refine ⟨records ++ records', ?_, List.map_append⟩
  rw [log', log, List.append_assoc]

end Logged

/-- Without an append call there is no batch. -/
theorem submittedBatches_eq_nil {records : List CallRecord}
    (quiet : ∀ r ∈ records, ∀ service trace batch, r.call ≠ .appendEvents service trace batch) :
    submittedBatches records = [] := by
  refine List.filterMap_eq_nil_iff.mpr fun r hr => ?_
  rw [CallRecord.batch?]
  split
  · rename_i sent
    exact absurd sent (quiet r hr _ _ _)
  · rfl

end TrafficTrace.Backend
