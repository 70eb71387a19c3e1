import TrafficTrace.Sync.Upload
import TrafficTrace.Proofs.Collector.Ledger
import TrafficTrace.Proofs.Collector.Requests
import TrafficTrace.Proofs.Collector.Tally

/-!
# The chain of an upload under way

An upload feeds one chain: everything is counted, and what passes the filters goes into batches for
one trace. Feeding is a loop, over events at hand or over what happens while a source is open. What
every request to the chain keeps, a whole feed keeps.
-/
namespace TrafficTrace

open Backend

variable {σ : Type}

/-- Where the events of an upload come from: they are at hand, or arrive while a clock ticks. -/
inductive EventSource where
  | ready (events : List (Moment × Event))
  | live (fresh : Nat → Uuid) (occurrences : List (Instant × Feed.Occurrence))

namespace EventSource

def eventOf : Instant × Feed.Occurrence → Option Event
  | (_, .event e) => some e
  | (_, .tick) => none

def events : EventSource → List Event
  | ready events => events.map Prod.snd
  | live _ occurrences => occurrences.filterMap eventOf

def feed (b : Backend σ) : EventSource → Collector → Stamped σ → Feed.Outcome (Stamped σ)
  | ready events, c, w => Feed.all b.stamped c w 0 events
  | live fresh occurrences, c, w =>
    Feed.occurrences b.stamped fresh Stamped.wake c w 0 occurrences

/-- An upload to a backend that keeps a log of its calls. -/
def upload (b : Backend σ) (setting : UploadSetting) (request : UploadRequest) (r : Resolver)
    (w : Stamped σ) : EventSource → UploadOutcome (Stamped σ)
  | ready events => Upload.all b.stamped setting request events r w
  | live fresh occurrences =>
    Upload.live b.stamped setting request fresh Stamped.wake occurrences r w

theorem upload_eq (b : Backend σ) (setting : UploadSetting) (request : UploadRequest)
    (r : Resolver) (w : Stamped σ) (source : EventSource) :
    source.upload b setting request r w =
      Upload.run b.stamped setting request (source.feed b) r w := by
  cases source <;> rfl

/-- What one request to a chain keeps: `P` with the events taken so far, as long as requests
succeed, and `Q` when one fails. -/
structure Keeps (b : Backend σ) (P : List Event → Collector → Stamped σ → Prop)
    (Q : Collector → Stamped σ → Prop) : Prop where
  taken : ∀ m e seen c w d, P seen c w → (c.process b.stamped m e w).1 = .ok d →
    P (seen ++ [e]) (c.process b.stamped m e w).2.1 (c.process b.stamped m e w).2.2
  refused : ∀ m e seen c w fault, P seen c w → (c.process b.stamped m e w).1 = .error fault →
    Q (c.process b.stamped m e w).2.1 (c.process b.stamped m e w).2.2
  ticked : ∀ now seen c w, P seen c w → (c.flushIfDue b.stamped now w).1 = .ok () →
    P seen (c.flushIfDue b.stamped now w).2.1 (c.flushIfDue b.stamped now w).2.2
  stuck : ∀ now seen c w fault, P seen c w → (c.flushIfDue b.stamped now w).1 = .error fault →
    Q (c.flushIfDue b.stamped now w).2.1 (c.flushIfDue b.stamped now w).2.2
  woken : ∀ now seen c w, P seen c w → P seen c (w.wake now)

namespace Keeps

variable {b : Backend σ} {P : List Event → Collector → Stamped σ → Prop}
  {Q : Collector → Stamped σ → Prop}

/-- How a feed ends. -/
def Ends (P : List Event → Collector → Stamped σ → Prop) (Q : Collector → Stamped σ → Prop)
    (seen : List Event) (o : Feed.Outcome (Stamped σ)) : Prop :=
  (∀ n, o.result = .ok n → P seen o.collector o.state) ∧
  ∀ fault, o.result = .error fault → Q o.collector o.state

theorem all (k : Keeps b P Q) (events : List (Moment × Event)) {seen : List Event}
    {c : Collector} {w : Stamped σ} (h : P seen c w) (fed : Nat) :
    Ends P Q (seen ++ events.map Prod.snd) (Feed.all b.stamped c w fed events) := by
  induction events generalizing seen c w fed with
  | nil =>
    rw [List.map_nil, List.append_nil]
    exact ⟨fun _ _ => h, nofun⟩
  | cons q rest ih =>
    obtain ⟨m, e⟩ := q
    have good := fun d => k.taken m e seen c w d h
    have bad := fun fault => k.refused m e seen c w fault h
    rw [Feed.all]
    rcases done : c.process b.stamped m e w with ⟨fault | d, c', w'⟩
    · simp only [done] at bad
      exact ⟨nofun, fun _ _ => bad fault rfl⟩
    · simp only [done] at good
      rw [List.map_cons, List.append_cons]
      exact ih (good d rfl) (fed + 1)

theorem occurrences (k : Keeps b P Q) (fresh : Nat → Uuid)
    (occurrences : List (Instant × Feed.Occurrence)) {seen : List Event} {c : Collector}
    {w : Stamped σ} (h : P seen c w) (fed : Nat) :
    Ends P Q (seen ++ occurrences.filterMap eventOf)
      (Feed.occurrences b.stamped fresh Stamped.wake c w fed occurrences) := by
  induction occurrences generalizing seen c w fed with
  | nil =>
    rw [List.filterMap_nil, List.append_nil]
    exact ⟨fun _ _ => h, nofun⟩
  | cons q rest ih =>
    obtain ⟨now, e | _⟩ := q
    · have woken := k.woken now seen c w h
      have good := fun d => k.taken ⟨now, fresh fed⟩ e seen c (w.wake now) d woken
      have bad := fun fault => k.refused ⟨now, fresh fed⟩ e seen c (w.wake now) fault woken
      rw [Feed.occurrences]
      rcases done : c.process b.stamped ⟨now, fresh fed⟩ e (w.wake now) with
        ⟨fault | d, c', w'⟩
      · simp only [done] at bad
        exact ⟨nofun, fun _ _ => bad fault rfl⟩
      · simp only [done] at good
        have named : eventOf (now, .event e) = some e := rfl
        rw [List.filterMap_cons_some named, List.append_cons]
        exact ih (good d rfl) (fed + 1)
    · have woken := k.woken now seen c w h
      have good := k.ticked now seen c (w.wake now) woken
      have bad := fun fault => k.stuck now seen c (w.wake now) fault woken
      rw [Feed.occurrences]
      rcases done : c.flushIfDue b.stamped now (w.wake now) with ⟨fault | _, c', w'⟩
      · simp only [done] at bad
        exact ⟨nofun, fun _ _ => bad fault rfl⟩
      · rw [done] at good
        rw [List.filterMap_cons_none rfl]
        exact ih (good rfl) fed

theorem feed (k : Keeps b P Q) (source : EventSource) {c : Collector} {w : Stamped σ}
    (h : P [] c w) : Ends P Q source.events (source.feed b c w) := by
  cases source with
  | ready events => exact k.all events h 0
  | live fresh occurrences => exact k.occurrences fresh occurrences h 0

end Keeps

end EventSource

namespace Upload

/-- What the filters of an upload let through. -/
def passes (request : UploadRequest) (rules : ExclusionRules) (e : Event) : Bool :=
  (request.includeTrackers || !Collector.isTracker e) && !rules.excludes e

/-- The stages of an upload with what two of them hold. -/
def stages (request : UploadRequest) (rules : ExclusionRules) (n : PacketCounts)
    (k : BatchCollector) : Collector :=
  .counting n (.trackers request.includeTrackers (.exclusion rules (.batches k)))

variable {request : UploadRequest} {rules : ExclusionRules}

/-- An event is dropped before the batches, or they take it, or they refuse it. -/
theorem stages_process_cases (request : UploadRequest) (rules : ExclusionRules)
    (b : Backend σ) (m : Moment) (e : Event) (n : PacketCounts) (k : BatchCollector) (s : σ) :
    (passes request rules e = false ∧ (stages request rules n k).process b m e s =
      (.ok .dropped, stages request rules (n.record e.direction e.kind .dropped) k, s)) ∨
    (passes request rules e = true ∧ ∃ d, (k.process b m e s).1 = .ok d ∧
      (stages request rules n k).process b m e s =
        (.ok d, stages request rules (n.record e.direction e.kind d) (k.process b m e s).2.1,
          (k.process b m e s).2.2)) ∨
    (passes request rules e = true ∧ ∃ fault, (k.process b m e s).1 = .error fault ∧
      (stages request rules n k).process b m e s =
        (.error fault, stages request rules n (k.process b m e s).2.1,
          (k.process b m e s).2.2)) := by
  unfold passes stages
  simp only [Collector.process]
  by_cases tracker : (!request.includeTrackers && Collector.isTracker e) = true
  · refine .inl ⟨?_, by simp only [tracker, if_true]⟩
    simp only [Bool.and_eq_true, Bool.not_eq_true'] at tracker
    simp [tracker]
  · by_cases excluded : rules.excludes e = true
    · refine .inl ⟨by simp [excluded], by simp only [tracker, excluded]; rfl⟩
    · have wanted : ((request.includeTrackers || !Collector.isTracker e) &&
          !rules.excludes e) = true := by
        simp only [Bool.and_eq_true, Bool.not_eq_true', not_and, Bool.not_eq_true]
          at tracker excluded
        cases included : request.includeTrackers <;> simp_all
      rcases k.process b m e s with ⟨fault | d, k', s'⟩
      · exact .inr (.inr ⟨wanted, fault, rfl, by simp only [tracker, excluded]; rfl⟩)
      · exact .inr (.inl ⟨wanted, d, rfl, by simp only [tracker, excluded]; rfl⟩)

theorem stages_flushIfDue (b : Backend σ) (now : Instant) (n : PacketCounts)
    (k : BatchCollector) (s : σ) :
    (stages request rules n k).flushIfDue b now s =
      ((k.flushIfDue b now s).1, stages request rules n (k.flushIfDue b now s).2.1,
        (k.flushIfDue b now s).2.2) := rfl

theorem stages_close (b : Backend σ) (n : PacketCounts) (k : BatchCollector) (s : σ) :
    (stages request rules n k).close b s =
      ((k.close b s).1, stages request rules n (k.close b s).2.1, (k.close b s).2.2) := rfl

/-- A collector in use since a time when the log was `before`. -/
structure Carries (before : List CallRecord) (purpose : ServiceId × TraceId × BatchPolicy)
    (k : BatchCollector) (taken : List Event) (w : Stamped σ) : Prop where
  purpose_eq : k.purpose = purpose
  log : ∃ sent, w.calls = before ++ sent ∧ k.Ledger sent taken

namespace Carries

variable {before : List CallRecord} {purpose : ServiceId × TraceId × BatchPolicy}
  {k : BatchCollector} {taken : List Event} {w : Stamped σ}

theorem process (h : Carries before purpose k taken w) (b : Backend σ) (m : Moment) (e : Event) :
    Carries before purpose (k.process b.stamped m e w).2.1
      (taken ++ if k.phase = .open_ then [e.identified m.fresh] else [])
      (k.process b.stamped m e w).2.2 := by
  obtain ⟨sent, log, ledger⟩ := h.log
  obtain ⟨more, grown, ledger'⟩ := ledger.process b m e w
  refine ⟨(BatchCollector.purpose_process _ _ _ _ _).trans h.purpose_eq, sent ++ more, ?_, ledger'⟩
  rw [grown, log, List.append_assoc]

theorem flushIfDue (h : Carries before purpose k taken w) (b : Backend σ) (now : Instant) :
    Carries before purpose (k.flushIfDue b.stamped now w).2.1 taken
      (k.flushIfDue b.stamped now w).2.2 := by
  obtain ⟨sent, log, ledger⟩ := h.log
  obtain ⟨more, grown, ledger'⟩ := ledger.flushIfDue b now w
  refine ⟨(BatchCollector.purpose_flushIfDue _ _ _ _).trans h.purpose_eq, sent ++ more, ?_, ledger'⟩
  rw [grown, log, List.append_assoc]

theorem close (h : Carries before purpose k taken w) (b : Backend σ) :
    Carries before purpose (k.close b.stamped w).2.1 taken (k.close b.stamped w).2.2 := by
  obtain ⟨sent, log, ledger⟩ := h.log
  obtain ⟨more, grown, ledger'⟩ := ledger.close b w
  refine ⟨(BatchCollector.purpose_close _ _ _).trans h.purpose_eq, sent ++ more, ?_, ledger'⟩
  rw [grown, log, List.append_assoc]

end Carries

/-- The chain of an upload, whatever happened to it. -/
def Aimed (request : UploadRequest) (rules : ExclusionRules) (before : List CallRecord)
    (purpose : ServiceId × TraceId × BatchPolicy) (c : Collector) (w : Stamped σ) : Prop :=
  ∃ n k taken, c = stages request rules n k ∧ Carries before purpose k taken w

/-- The chain of an upload that has taken the events `seen` and has not failed. -/
def Running (request : UploadRequest) (rules : ExclusionRules) (before : List CallRecord)
    (purpose : ServiceId × TraceId × BatchPolicy) (seen : List Event) (c : Collector)
    (w : Stamped σ) : Prop :=
  ∃ n k taken, c = stages request rules n k ∧ Carries before purpose k taken w ∧
    k.phase = .open_ ∧ PacketCounts.Counts (passes request rules) n seen ∧
    List.Forall₂ Event.SentAs (seen.filter (passes request rules)) taken

theorem Running.aimed {before : List CallRecord} {purpose : ServiceId × TraceId × BatchPolicy}
    {seen : List Event} {c : Collector} {w : Stamped σ}
    (h : Running request rules before purpose seen c w) :
    Aimed request rules before purpose c w := by
  obtain ⟨n, k, taken, shape, carries, _⟩ := h
  exact ⟨n, k, taken, shape, carries⟩

theorem running_keeps (b : Backend σ) (request : UploadRequest) (rules : ExclusionRules)
    (before : List CallRecord) (purpose : ServiceId × TraceId × BatchPolicy) :
    EventSource.Keeps b (Running request rules before purpose)
      (Aimed request rules before purpose) where
  taken := by
    rintro m e seen _ w d ⟨n, k, taken, rfl, carries, isOpen, counts, sentAs⟩ ok
    have counted := counts.record e
    rcases stages_process_cases request rules b.stamped m e n k w with
      ⟨pass, done⟩ | ⟨pass, d', took, done⟩ | ⟨_, fault, _, done⟩
    · rw [done]
      rw [pass] at counted
      refine ⟨_, k, taken, rfl, carries, isOpen, counted, ?_⟩
      simpa [List.filter_append, pass] using sentAs
    · rw [done]
      obtain ⟨_, rfl, stillOpen⟩ := BatchCollector.process_ok took
      rw [pass] at counted
      refine ⟨_, _, _, rfl, carries.process b m e, stillOpen, counted, ?_⟩
      rw [List.filter_append, if_pos isOpen, List.filter_cons_of_pos pass]
      exact List.rel_append sentAs (.cons (e.sentAs_identified m.fresh) .nil)
    · rw [done] at ok
      cases ok
  refused := by
    rintro m e seen _ w fault ⟨n, k, taken, rfl, carries, _⟩ _
    rcases stages_process_cases request rules b.stamped m e n k w with
      ⟨_, done⟩ | ⟨_, _, _, done⟩ | ⟨_, _, _, done⟩
    · rw [done]
      exact ⟨_, k, taken, rfl, carries⟩
    · rw [done]
      exact ⟨_, _, _, rfl, carries.process b m e⟩
    · rw [done]
      exact ⟨_, _, _, rfl, carries.process b m e⟩
  ticked := by
    rintro now seen _ w ⟨n, k, taken, rfl, carries, isOpen, counts, sentAs⟩ ok
    rw [stages_flushIfDue] at ok ⊢
    have stillOpen := BatchCollector.phase_of_flushIfDue_ok ok
    exact ⟨n, _, taken, rfl, carries.flushIfDue b now, stillOpen.trans isOpen, counts, sentAs⟩
  stuck := by
    rintro now seen _ w fault ⟨n, k, taken, rfl, carries, _⟩ _
    rw [stages_flushIfDue]
    exact ⟨n, _, taken, rfl, carries.flushIfDue b now⟩
  woken := by
    rintro now seen _ w ⟨n, k, taken, rfl, ⟨purpose_eq, log⟩, isOpen, counts, sentAs⟩
    exact ⟨n, k, taken, rfl, ⟨purpose_eq, log⟩, isOpen, counts, sentAs⟩

theorem chain_running (setting : UploadSetting) (service : ServiceId) (trace : TraceId)
    (request : UploadRequest) (rules : ExclusionRules) (w : Stamped σ) :
    Running request rules w.calls (service, trace, setting.policy.normal) []
      (chain setting service trace request rules) w :=
  ⟨.empty, .start service trace setting.client setting.policy, [], rfl,
    ⟨rfl, [], (List.append_nil _).symm, BatchCollector.ledger_start _ _ _ _⟩, rfl,
    PacketCounts.counts_empty _, .nil⟩

/-- The calls of a chain append to its trace, and it makes no others. -/
theorem Aimed.calls {before : List CallRecord} {service : ServiceId} {trace : TraceId}
    {policy : BatchPolicy} {c : Collector} {w : Stamped σ}
    (h : Aimed request rules before (service, trace, policy) c w) :
    ∃ sent, w.calls = before ++ sent ∧ ∃ batches : List EventBatch,
      sent.map CallRecord.call = batches.map (.appendEvents service trace) := by
  obtain ⟨_, k, _, _, purpose_eq, sent, log, ledger⟩ := h
  obtain ⟨rfl, rfl, rfl⟩ : k.service = service ∧ k.trace = trace ∧ k.policy = policy := by
    simpa [BatchCollector.purpose] using purpose_eq
  refine ⟨sent, log, submittedBatches sent, ?_⟩
  have targets := ledger.targets
  clear log ledger
  induction sent with
  | nil => rfl
  | cons call rest ih =>
    obtain ⟨x, target⟩ := targets call List.mem_cons_self
    have batch : call.batch? = some x := by simp [CallRecord.batch?, target]
    rw [submittedBatches, List.filterMap_cons_some batch, List.map_cons, List.map_cons, target,
      ih fun r hr => targets r (List.mem_cons_of_mem _ hr), submittedBatches]

theorem Aimed.close {before : List CallRecord} {purpose : ServiceId × TraceId × BatchPolicy}
    {c : Collector} {w : Stamped σ} (h : Aimed request rules before purpose c w)
    (b : Backend σ) :
    Aimed request rules before purpose (c.close b.stamped w).2.1 (c.close b.stamped w).2.2 := by
  obtain ⟨n, k, taken, rfl, carries⟩ := h
  rw [stages_close]
  exact ⟨n, _, taken, rfl, carries.close b⟩

/-- Feeding fails, or closing fails, or what the closed chain has counted is summed up. -/
theorem deliver_cases (b : Backend σ) (service : ServiceId) (chosen : UploadTarget)
    (feed : Collector → σ → Feed.Outcome σ) (c : Collector) (s : σ) :
    let fed := feed c s
    let closed := fed.collector.close b fed.state
    (∃ fault, fed.result = .error fault ∧ deliver b service chosen feed c s =
      (.error (.collect chosen.name fault), fed.progress, fed.state)) ∨
    (∃ n, fed.result = .ok n ∧ ∃ fault, closed.1 = .error fault ∧
      deliver b service chosen feed c s =
        (.error (.collect chosen.name fault), fed.progress, closed.2.2)) ∨
    ∃ n, fed.result = .ok n ∧ closed.1 = .ok () ∧ deliver b service chosen feed c s =
      (.ok ⟨service, chosen.id, chosen.name, chosen.created, closed.2.1.accepted.1,
        closed.2.1.accepted.2, closed.2.1.counts.headD .empty⟩, fed.progress, closed.2.2) := by
  intro fed closed
  unfold deliver
  cases result : fed.result with
  | error fault => exact .inl ⟨fault, rfl, by simp only [fed, result]⟩
  | ok n =>
    rcases done : closed with ⟨fault | _, c', s'⟩
    · refine .inr (.inl ⟨n, rfl, fault, rfl, ?_⟩)
      simp only [fed, closed] at result done ⊢
      simp only [result, done]
    · refine .inr (.inr ⟨n, rfl, rfl, ?_⟩)
      simp only [fed, closed] at result done ⊢
      simp only [result, done]

end Upload

end TrafficTrace
