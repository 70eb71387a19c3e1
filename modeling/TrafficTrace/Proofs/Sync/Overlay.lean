import TrafficTrace.Sync.Upload

/-!
# Backends that keep more in their state

A backend may keep more than another one and still answer every call in the same way, such as one that
writes down its calls. An upload to it comes to the same as an upload to the other, and leaves what
that one has in its state.
-/
namespace TrafficTrace

variable {σ τ : Type}

/-- The result of a step with the part of its state that `view` shows. -/
def seen {α β : Type} (view : τ → σ) (r : α × β × τ) : α × β × σ := (r.1, r.2.1, view r.2.2)

namespace Backend

/-- `b'` answers as `b` does to what `view` shows of its state. -/
structure Overlays (b' : Backend τ) (b : Backend σ) (view : τ → σ) : Prop where
  listServices : ∀ t, b.listServices (view t) = ((b'.listServices t).1, view (b'.listServices t).2)
  listTraces : ∀ service tags t, b.listTraces service tags (view t) =
    ((b'.listTraces service tags t).1, view (b'.listTraces service tags t).2)
  createTrace : ∀ service request t, b.createTrace service request (view t) =
    ((b'.createTrace service request t).1, view (b'.createTrace service request t).2)
  appendEvents : ∀ service trace batch t, b.appendEvents service trace batch (view t) =
    ((b'.appendEvents service trace batch t).1, view (b'.appendEvents service trace batch t).2)

theorem stamped_overlays (b : Backend σ) : b.stamped.Overlays b Stamped.state where
  listServices _ := rfl
  listTraces _ _ _ := rfl
  createTrace _ _ _ := rfl
  appendEvents _ _ _ _ := rfl

end Backend

open Backend

variable {b' : Backend τ} {b : Backend σ} {view : τ → σ}

namespace BatchCollector

theorem submit_overlaid (h : b'.Overlays b view) (c : BatchCollector) (batch : EventBatch) (t : τ) :
    submit b c batch (view t) = ((submit b' c batch t).1, view (submit b' c batch t).2) := by
  rw [submit, submit, h.appendEvents]
  rcases b'.appendEvents c.service c.trace batch t with ⟨e | answer, t'⟩
  · dsimp only
    split
    · exact h.appendEvents _ _ _ _
    · rfl
  · rfl

theorem flush_overlaid (h : b'.Overlays b view) (c : BatchCollector) (t : τ) :
    flush b c (view t) = seen view (flush b' c t) := by
  rw [flush, flush]
  split
  · rfl
  · rw [submit_overlaid h]
    rcases submit b' c c.batch t with ⟨e | _, t'⟩
    · rfl
    · rfl

theorem flushIfDue_overlaid (h : b'.Overlays b view) (now : Instant) (c : BatchCollector) (t : τ) :
    flushIfDue b now c (view t) = seen view (flushIfDue b' now c t) := by
  rw [flushIfDue, flushIfDue]
  cases c.phase with
  | poisoned => rfl
  | closed => rfl
  | open_ =>
    dsimp only
    split
    · exact flush_overlaid h c t
    · rfl

theorem process_overlaid (h : b'.Overlays b view) (m : Moment) (e : Event) (c : BatchCollector)
    (t : τ) : process b m e c (view t) = seen view (process b' m e c t) := by
  rw [process, process]
  cases c.phase with
  | poisoned => rfl
  | closed => rfl
  | open_ =>
    dsimp only
    split
    · rw [flush_overlaid h]
      rfl
    · rfl

theorem close_overlaid (h : b'.Overlays b view) (c : BatchCollector) (t : τ) :
    close b c (view t) = seen view (close b' c t) := by
  rw [close, close]
  cases c.phase with
  | poisoned => rfl
  | closed => rfl
  | open_ =>
    dsimp only
    rw [flush_overlaid h]
    rcases flush b' c t with ⟨fault | _, c', t'⟩
    · rfl
    · rfl

end BatchCollector

namespace Collector

theorem process_overlaid (h : b'.Overlays b view) (m : Moment) (e : Event) (c : Collector) (t : τ) :
    c.process b m e (view t) = seen view (c.process b' m e t) := by
  induction c with
  | memory events closed =>
    rw [process, process]
    split <;> rfl
  | batches c =>
    rw [process, process, BatchCollector.process_overlaid h]
    rfl
  | exclusion rules next ih =>
    rw [process, process, ih]
    split <;> rfl
  | trackers included next ih =>
    rw [process, process, ih]
    split <;> rfl
  | counting counts next ih =>
    rw [process, process, ih]
    rcases next.process b' m e t with ⟨fault | outcome, next', t'⟩
    · rfl
    · rfl

theorem flushIfDue_overlaid (h : b'.Overlays b view) (now : Instant) (c : Collector) (t : τ) :
    c.flushIfDue b now (view t) = seen view (c.flushIfDue b' now t) := by
  induction c with
  | memory events closed => rfl
  | batches c =>
    rw [flushIfDue, flushIfDue, BatchCollector.flushIfDue_overlaid h]
    rfl
  | exclusion rules next ih | trackers included next ih | counting counts next ih =>
    rw [flushIfDue, flushIfDue, ih]
    rfl

theorem close_overlaid (h : b'.Overlays b view) (c : Collector) (t : τ) :
    c.close b (view t) = seen view (c.close b' t) := by
  induction c with
  | memory events closed => rfl
  | batches c =>
    rw [close, close, BatchCollector.close_overlaid h]
    rfl
  | exclusion rules next ih | trackers included next ih | counting counts next ih =>
    rw [close, close, ih]
    rfl

end Collector

namespace Feed

/-- The outcome with the part of its state that `view` shows. -/
def Outcome.seen (view : τ → σ) (o : Outcome τ) : Outcome σ :=
  ⟨o.result, o.progress, o.collector, view o.state⟩

theorem occurrences_overlaid (h : b'.Overlays b view) (fresh : Nat → Uuid)
    {wake : Instant → σ → σ} {wake' : Instant → τ → τ}
    (woken : ∀ now t, view (wake' now t) = wake now (view t)) (c : Collector) (t : τ) (fed : Nat)
    (l : List (Instant × Occurrence)) :
    occurrences b fresh wake c (view t) fed l =
      (occurrences b' fresh wake' c t fed l).seen view := by
  induction l generalizing c t fed with
  | nil => rfl
  | cons q rest ih =>
    obtain ⟨now, e | _⟩ := q
    · rw [occurrences, occurrences, ← woken, Collector.process_overlaid h]
      rcases c.process b' ⟨now, fresh fed⟩ e (wake' now t) with ⟨fault | d, c', t'⟩
      · rfl
      · simp only [TrafficTrace.seen, ih]
        rfl
    · rw [occurrences, occurrences, ← woken, Collector.flushIfDue_overlaid h]
      rcases c.flushIfDue b' now (wake' now t) with ⟨fault | _, c', t'⟩
      · rfl
      · exact ih c' t' fed

end Feed

namespace Resolver

theorem service_overlaid (h : b'.Overlays b view) (now : Instant) (name : String) (r : Resolver)
    (t : τ) : r.service b now name (view t) = seen view (r.service b' now name t) := by
  rw [service, service]
  dsimp only
  split
  · rfl
  · rw [h.listServices]
    rcases b'.listServices t with ⟨e | services, t'⟩
    · rfl
    · dsimp only
      split <;> rfl

theorem trace_overlaid (h : b'.Overlays b view) (now : Instant) (service : ServiceId) (name : String)
    (r : Resolver) (t : τ) :
    r.trace b now service name (view t) = seen view (r.trace b' now service name t) := by
  rw [trace, trace]
  dsimp only
  split
  · rfl
  · rw [h.listTraces]
    rcases b'.listTraces service .empty t with ⟨e | traces, t'⟩
    · rfl
    · dsimp only
      split <;> rfl

end Resolver

/-- The outcome with the part of its state that `view` shows. -/
def UploadOutcome.seen (view : τ → σ) (o : UploadOutcome τ) : UploadOutcome σ :=
  ⟨o.result, o.progress, o.resolver, view o.state⟩

namespace Upload

theorem create_overlaid (h : b'.Overlays b view) (now : Instant) (service : ServiceId) (name : String)
    (request : UploadRequest) (r : Resolver) (t : τ) :
    create b now service name request r (view t) =
      seen view (create b' now service name request r t) := by
  rw [create, create, h.createTrace]
  rcases b'.createTrace service _ t with ⟨e | info, t'⟩
  · rfl
  · rfl

theorem target_overlaid (h : b'.Overlays b view) (setting : UploadSetting) (service : ServiceId)
    (request : UploadRequest) (r : Resolver) (t : τ) :
    target b setting service request r (view t) =
      seen view (target b' setting service request r t) := by
  rw [target, target]
  split
  · exact create_overlaid h _ _ _ _ _ _
  · rw [Resolver.trace_overlaid h]
    rcases r.trace b' setting.now service _ t with ⟨(_ | _) | id, r', t'⟩
    · exact create_overlaid h _ _ _ _ _ _
    · rfl
    · dsimp only [seen]
      split <;> rfl

theorem deliver_overlaid (h : b'.Overlays b view) (service : ServiceId) (chosen : UploadTarget)
    {feed : Collector → σ → Feed.Outcome σ} {feed' : Collector → τ → Feed.Outcome τ}
    (fed : ∀ c t, feed c (view t) = (feed' c t).seen view) (c : Collector) (t : τ) :
    deliver b service chosen feed c (view t) = seen view (deliver b' service chosen feed' c t) := by
  rw [deliver, deliver, fed]
  dsimp only [Feed.Outcome.seen]
  cases (feed' c t).result with
  | error e => rfl
  | ok n =>
    rw [Collector.close_overlaid h]
    rcases (feed' c t).collector.close b' (feed' c t).state with ⟨fault | _, c', t'⟩
    · rfl
    · rfl

/-- An upload of what is fed in the same way comes to the same. -/
theorem run_overlaid (h : b'.Overlays b view) (setting : UploadSetting) (request : UploadRequest)
    {feed : Collector → σ → Feed.Outcome σ} {feed' : Collector → τ → Feed.Outcome τ}
    (fed : ∀ c t, feed c (view t) = (feed' c t).seen view) (r : Resolver) (t : τ) :
    run b setting request feed r (view t) = (run b' setting request feed' r t).seen view := by
  rw [run, run]
  split
  · rfl
  · rw [Resolver.service_overlaid h]
    rcases r.service b' setting.now request.service t with ⟨e | service, r', t'⟩
    · rfl
    · dsimp only [seen]
      rw [target_overlaid h]
      rcases target b' setting service request r' t' with ⟨e | chosen, r'', t''⟩
      · rfl
      · dsimp only [seen]
        rw [deliver_overlaid h service chosen fed]
        rfl

theorem live_overlaid (h : b'.Overlays b view) (setting : UploadSetting) (request : UploadRequest)
    (fresh : Nat → Uuid) (wake : Instant → σ → σ) (wake' : Instant → τ → τ)
    (woken : ∀ now t, view (wake' now t) = wake now (view t))
    (occurrences : List (Instant × Feed.Occurrence)) (r : Resolver) (t : τ) :
    live b setting request fresh wake occurrences r (view t) =
      (live b' setting request fresh wake' occurrences r t).seen view :=
  run_overlaid h setting request (fun c t => Feed.occurrences_overlaid h fresh woken c t 0 occurrences) r t

end Upload

end TrafficTrace
