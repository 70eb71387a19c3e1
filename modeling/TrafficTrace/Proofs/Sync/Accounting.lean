import TrafficTrace.Proofs.Sync.Decision

/-!
# What a successful upload has delivered

The counts at the head of the chain, the counters at its end and the log of the backend are kept
apart. After an upload that succeeded they agree with each other and with the events it was given.
-/
namespace TrafficTrace

open Backend

variable {σ : Type}

namespace Backend

/-- No batch was sent between two states. -/
def Quiet (w w' : Stamped σ) : Prop :=
  ∃ calls, Logged w w' calls ∧
    ∀ c ∈ calls, ∀ service trace batch, c ≠ .appendEvents service trace batch

theorem Quiet.trans {w w' w'' : Stamped σ} (h : Quiet w w') (h' : Quiet w' w'') :
    Quiet w w'' := by
  obtain ⟨calls, log, none⟩ := h
  obtain ⟨calls', log', none'⟩ := h'
  refine ⟨calls ++ calls', log.trans log', fun c hc => ?_⟩
  rcases List.mem_append.mp hc with hc | hc
  · exact none c hc
  · exact none' c hc

theorem Quiet.log {w w' : Stamped σ} (h : Quiet w w') :
    ∃ records, w'.calls = w.calls ++ records ∧ submittedBatches records = [] := by
  obtain ⟨_, ⟨records, log, rfl⟩, none⟩ := h
  exact ⟨records, log,
    submittedBatches_eq_nil fun r hr => none r.call (List.mem_map_of_mem hr)⟩

theorem acceptedBatches_of_quiet {calls : List CallRecord} (h : submittedBatches calls = []) :
    acceptedBatches calls = [] := by
  have sub : (acceptedBatches calls).Sublist (submittedBatches calls) :=
    List.filter_sublist.filterMap CallRecord.batch?
  exact List.sublist_nil.mp (h ▸ sub)

end Backend

theorem Resolver.quiet_service (b : Backend σ) (now : Instant) (name : String) (r : Resolver)
    (w : Stamped σ) : Quiet w (r.service b.stamped now name w).2.2 := by
  refine ⟨_, r.service_logged b now name w, ?_⟩
  rw [serviceCalls]
  split <;> simp

namespace Upload

theorem quiet_search (b : Backend σ) (setting : UploadSetting) (service : ServiceId)
    (request : UploadRequest) (r : Resolver) (w : Stamped σ) :
    Quiet w (search b.stamped setting service request r w).2.2 := by
  refine ⟨_, search_logged b setting service request r w, ?_⟩
  unfold searchCalls Resolver.traceCalls
  split
  · simp
  · split <;> simp

/-- Nothing is sent before a trace is chosen. -/
theorem quiet_target (b : Backend σ) (setting : UploadSetting) (service : ServiceId)
    (request : UploadRequest) (r : Resolver) (w : Stamped σ) :
    Quiet w (target b.stamped setting service request r w).2.2 := by
  have searched := quiet_search b setting service request r w
  rcases found_cases (search b.stamped setting service request r w).1 with
    ⟨e, failed, lasting⟩ | ⟨id, known⟩ | absent
  · rw [target_of_error failed lasting]
    exact searched
  · rw [target_of_found known]
    exact searched
  · rw [target_of_absent absent]
    exact searched.trans ⟨_, (create_cases b setting service request setting.now _ _).1, by simp⟩

/-- What an upload sums up agrees with the calls that it made for the events it was given. -/
structure Accounted (request : UploadRequest) (rules : ExclusionRules) (policy : BatchPolicy)
    (events : List Event) (summary : UploadSummary) (calls : List CallRecord) : Prop where
  delivered : List.Forall₂ Event.SentAs (events.filter (passes request rules))
    (acceptedEvents calls)
  buckets : ∀ d k,
    let own := events.filter fun e => e.direction = d && e.kind = k
    let bucket := summary.counts.get d k
    bucket.input = own.length ∧
    bucket.forwarded = (own.filter (passes request rules)).length ∧
    bucket.forwarded + bucket.filtered = bucket.input
  submitted : summary.submitted = summary.counts.total.forwarded
  forwarded : summary.counts.total.forwarded = (acceptedEvents calls).length
  batches : summary.batches = (acceptedBatches calls).length
  sizes : ∀ x ∈ submittedBatches calls, 1 ≤ x.events.length ∧
    x.events.length ≤ max 1 policy.maxSize

theorem Accounted.after_quiet {request : UploadRequest} {rules : ExclusionRules}
    {policy : BatchPolicy} {events : List Event} {summary : UploadSummary}
    {calls sent : List CallRecord} (h : Accounted request rules policy events summary sent)
    (quiet : submittedBatches calls = []) :
    Accounted request rules policy events summary (calls ++ sent) := by
  have submitted : submittedBatches (calls ++ sent) = submittedBatches sent := by
    rw [submittedBatches_append, quiet, List.nil_append]
  have batches : acceptedBatches (calls ++ sent) = acceptedBatches sent := by
    rw [acceptedBatches_append, acceptedBatches_of_quiet quiet, List.nil_append]
  have accepted : acceptedEvents (calls ++ sent) = acceptedEvents sent := by
    rw [acceptedEvents, batches, acceptedEvents]
  exact {
    delivered := accepted ▸ h.delivered
    buckets := h.buckets
    submitted := h.submitted
    forwarded := accepted ▸ h.forwarded
    batches := batches ▸ h.batches
    sizes := submitted ▸ h.sizes }

/-- A chain that has taken events without a failure and was closed without one has delivered what
passes. -/
theorem Running.closed {request : UploadRequest} {rules : ExclusionRules}
    {before : List CallRecord} {service : ServiceId} {trace : TraceId} {policy : BatchPolicy}
    {seen : List Event} {c : Collector} {w : Stamped σ}
    (h : Running request rules before (service, trace, policy) seen c w) (b : Backend σ)
    (ok : (c.close b.stamped w).1 = .ok ()) :
    ∃ sent, (c.close b.stamped w).2.2.calls = before ++ sent ∧
      List.Forall₂ Event.SentAs (seen.filter (passes request rules)) (acceptedEvents sent) ∧
      PacketCounts.Counts (passes request rules)
        ((c.close b.stamped w).2.1.counts.headD .empty) seen ∧
      (c.close b.stamped w).2.1.accepted =
        ((acceptedEvents sent).length, (acceptedBatches sent).length) ∧
      ∀ x ∈ submittedBatches sent, 0 < x.events.length ∧ x.events.length ≤ policy.maxSize := by
  obtain ⟨n, k, taken, rfl, carries, _, counted, sentAs⟩ := h
  rw [stages_close] at ok ⊢
  obtain ⟨purpose_eq, sent, log, ledger⟩ := carries.close b
  -- closed, so nothing is left in the buffer and nothing was lost: what was taken was accepted
  have phase : (k.close b.stamped w).2.1.phase = .closed := BatchCollector.phase_of_close_ok ok
  have policy_eq : (k.close b.stamped w).2.1.policy = policy := congrArg (·.2.2) purpose_eq
  have empty : (k.close b.stamped w).2.1.buffer = [] := ledger.idle (by rw [phase]; simp)
  have none : lostBatch? sent = none := by
    rw [← Option.not_isSome_iff_eq_none, ledger.lost_iff, phase]
    simp
  have all : acceptedEvents sent = taken := by
    have conserved := ledger.conserved
    simpa [lostEvents, none, empty] using conserved
  refine ⟨sent, log, all ▸ sentAs, counted, ?_, policy_eq ▸ ledger.sizes⟩
  exact Prod.ext ledger.submitted ledger.batches

theorem deliver_accounted (b : Backend σ) (setting : UploadSetting) (service : ServiceId)
    (chosen : UploadTarget) (request : UploadRequest) (rules : ExclusionRules)
    (source : EventSource) (w : Stamped σ) {summary : UploadSummary}
    (ok : (deliver b.stamped service chosen (source.feed b)
      (chain setting service chosen.id request rules) w).1 = .ok summary) :
    ∃ sent, (deliver b.stamped service chosen (source.feed b)
        (chain setting service chosen.id request rules) w).2.2.calls = w.calls ++ sent ∧
      Accounted request rules setting.policy source.events summary sent := by
  have first := chain_running setting service chosen.id request rules w
  obtain ⟨good, _⟩ := (running_keeps b request rules _ _).feed source first
  rcases deliver_cases b.stamped service chosen (source.feed b)
      (chain setting service chosen.id request rules) w with
    ⟨fault, _, done⟩ | ⟨n, _, fault, _, done⟩ | ⟨n, fed, closed, done⟩
  · rw [done] at ok
    cases ok
  · rw [done] at ok
    cases ok
  · rw [done] at ok ⊢
    obtain ⟨sent, log, sentAs, counted, accepted, sizes⟩ := (good n fed).closed b closed
    cases ok
    have total := counted.total
    have passed := sentAs.length_eq
    refine ⟨sent, log, ?_⟩
    exact {
      delivered := sentAs
      buckets := fun d k => by
        intro own bucket
        have bucket_eq : bucket = .tally (passes request rules) own := counted.bucket d k
        rw [bucket_eq]
        exact ⟨rfl, rfl, Bucket.tally_balanced _ _⟩
      submitted := by
        dsimp only
        rw [accepted, total]
        exact passed.symm
      forwarded := by
        dsimp only
        rw [total]
        exact passed
      batches := by
        dsimp only
        rw [accepted]
      sizes := fun x sent => by
        rw [Nat.max_comm]
        exact sizes x sent }

/-- An upload that returns a summary has delivered, once and in order, exactly the events that pass,
and its numbers are those of the events and of the calls. -/
theorem upload_accounts (b : Backend σ) (setting : UploadSetting) (request : UploadRequest)
    (source : EventSource) (r : Resolver) (w : Stamped σ) (summary : UploadSummary)
    (ok : (source.upload b setting request r w).result = .ok summary) :
    ∃ rules calls,
      ExclusionRules.compile request.hostExclusions request.pathExclusions = .ok rules ∧
      (source.upload b setting request r w).state.calls = w.calls ++ calls ∧
      Accounted request rules setting.policy source.events summary calls := by
  have unfolded := source.upload_eq b setting request r w
  rw [unfolded] at ok ⊢
  rcases request.compile_cases with ⟨_, rules, compiled⟩ | ⟨_, _, _, _, _, _, refused⟩
  · cases found : (r.service b.stamped setting.now request.service w).1 with
    | error e =>
      rw [run_of_service_error compiled found] at ok
      cases ok
    | ok service =>
      obtain ⟨bad, good⟩ := run_of_service (source.feed b) compiled found
      cases picked : (target b.stamped setting service request
          (r.service b.stamped setting.now request.service w).2.1
          (r.service b.stamped setting.now request.service w).2.2).1 with
      | error e =>
        rw [bad e picked] at ok
        cases ok
      | ok t =>
        rw [good t picked] at ok ⊢
        obtain ⟨calls, before, quiet⟩ := ((r.quiet_service b setting.now request.service w).trans
          (quiet_target b setting service request _ _)).log
        obtain ⟨sent, log, accounted⟩ := deliver_accounted b setting service t request rules
          source _ ok
        refine ⟨rules, calls ++ sent, compiled, ?_, accounted.after_quiet quiet⟩
        rw [log, before, List.append_assoc]
  · rw [run_of_compile_error refused] at ok
    cases ok

/-- One event of a page and one of a tracker. The first batch is sent twice. -/
theorem upload_accounts_retried :
    let b := scripted
    let setting : UploadSetting := ⟨.nil, ⟨0, .zero⟩, 0, .nil⟩
    let request : UploadRequest := ⟨"shop", none, false, .empty, none, false, [], []⟩
    let events : List (Moment × Event) := [
      (⟨0, .nil⟩, .request "GET" "shop.example" "/" .epoch),
      (⟨0, .nil⟩, .request "GET" "a.sentry.io" "/" .epoch)]
    let source := EventSource.ready events
    let s : Script :=
      ⟨.ok [⟨⟨.fill 1⟩, "Shop"⟩], .ok [], [], [some (.timeout 1)], 0, fun _ => ⟨.fill 2⟩⟩
    ∃ summary, (source.upload b setting request .standard (.start s)).result = .ok summary ∧
      ∃ rules calls,
        ExclusionRules.compile request.hostExclusions request.pathExclusions = .ok rules ∧
        (source.upload b setting request .standard (.start s)).state.calls = calls ∧
        Accounted request rules setting.policy source.events summary calls := by
  intro b setting request events source s
  have ok : (source.upload b setting request .standard (.start s)).result.isOk = true := by
    decide +kernel
  cases result : (source.upload b setting request .standard (.start s)).result with
  | error e =>
    rw [result] at ok
    cases ok
  | ok summary =>
    exact ⟨summary, rfl, upload_accounts b setting request source .standard (.start s) summary
      result⟩

end Upload

end TrafficTrace
