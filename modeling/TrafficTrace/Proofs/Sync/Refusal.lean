import TrafficTrace.Proofs.Sync.Accounting

/-!
# What can stop an upload

An upload fails because it is refused or because a call of the backend failed. It is refused for a
pattern that cannot be read, for a service that is not listed, and for a trace that exists and must not
be added to. With a backend that answers every call, what is not refused delivers what passes.
-/
namespace TrafficTrace

open Backend

variable {σ : Type}

namespace BatchCollector

variable {b : Backend σ} {c : BatchCollector} {s : σ} {fault : CollectorError}

theorem phase_of_flushIfDue_error {now : Instant} (isOpen : c.phase = .open_)
    (failed : (flushIfDue b now c s).1 = .error fault) :
    (flushIfDue b now c s).2.1.phase = .poisoned := by
  rw [flushIfDue, isOpen] at failed ⊢
  dsimp only at failed ⊢
  split
  · rename_i due
    rw [if_pos due] at failed
    exact phase_of_flush_error failed
  · rename_i early
    rw [if_neg early] at failed
    cases failed

theorem phase_of_process_error {m : Moment} {e : Event} (isOpen : c.phase = .open_)
    (failed : (process b m e c s).1 = .error fault) :
    (process b m e c s).2.1.phase = .poisoned := by
  rw [process_of_open isOpen] at failed ⊢
  have pushed : (c.push m.now (e.identified m.fresh)).phase = .open_ := isOpen
  cases looked : (flushIfDue b m.now (c.push m.now (e.identified m.fresh)) s).1 with
  | error e => exact phase_of_flushIfDue_error pushed looked
  | ok _ =>
    rw [looked] at failed
    cases failed

theorem phase_of_close_error (isOpen : c.phase = .open_)
    (failed : (close b c s).1 = .error fault) : (close b c s).2.1.phase = .poisoned := by
  rw [close, isOpen] at failed ⊢
  dsimp only at failed ⊢
  rcases sent : flush b c s with ⟨e | _, c', s'⟩
  · have lost : (flush b c s).1 = .error e := by rw [sent]
    have poisoned := phase_of_flush_error lost
    rw [sent] at poisoned
    exact poisoned
  · rw [sent] at failed
    cases failed

end BatchCollector

namespace Backend

/-- A call since the log was `before` was answered with an error. -/
def Failed (before : List CallRecord) (w : Stamped σ) : Prop :=
  ∃ sent, w.calls = before ++ sent ∧ ∃ x ∈ sent, x.fault ≠ none

variable {w w' : Stamped σ} {before : List CallRecord} {calls : List BackendCall}

theorem Failed.earlier (h : Failed w.calls w') (log : ∃ sent, w.calls = before ++ sent) :
    Failed before w' := by
  obtain ⟨sent, logged, x, hx, fault⟩ := h
  obtain ⟨first, start⟩ := log
  refine ⟨first ++ sent, ?_, x, List.mem_append_right _ hx, fault⟩
  rw [logged, start, List.append_assoc]

theorem Logged.grown (h : Logged w w' calls) : ∃ sent, w'.calls = w.calls ++ sent := by
  obtain ⟨sent, log, -⟩ := h
  exact ⟨sent, log⟩

/-- A call that was answered with an error stands at the end of the log. -/
theorem failed_of_last {x : CallRecord} (log : w'.calls = w.calls ++ [x]) (fault : x.fault ≠ none) :
    Failed w.calls w' := ⟨[x], log, x, List.mem_singleton.mpr rfl, fault⟩

end Backend

namespace Resolver

theorem failed_of_service {b : Backend σ} {now : Instant} {name : String} {r : Resolver}
    {w : Stamped σ} {e : ResolveError} (answer : (r.service b.stamped now name w).1 = .error e)
    (lasting : e.isNotFound = false) : Failed w.calls (r.service b.stamped now name w).2.2 := by
  rcases r.service_cases b.stamped now name w with
    ⟨id, hit, done⟩ | ⟨miss, e', asked, done⟩ | ⟨miss, l, asked, done⟩
  · rw [done] at answer
    cases answer
  · rw [done]
    have stored : (b.listServices w.state).1 = .error e' := asked
    refine failed_of_last rfl ?_
    rw [stored]
    exact Option.some_ne_none e'
  · rw [done] at answer
    cases found : lastListedService (normalize name) l with
    | some id =>
      rw [found] at answer
      cases answer
    | none =>
      rw [found] at answer
      cases answer
      cases lasting

theorem failed_of_trace {b : Backend σ} {now : Instant} {service : ServiceId} {name : String}
    {r : Resolver} {w : Stamped σ} {e : ResolveError}
    (answer : (r.trace b.stamped now service name w).1 = .error e)
    (lasting : e.isNotFound = false) :
    Failed w.calls (r.trace b.stamped now service name w).2.2 := by
  rcases r.trace_cases b.stamped now service name w with
    ⟨id, hit, done⟩ | ⟨miss, e', asked, done⟩ | ⟨miss, l, asked, done⟩
  · rw [done] at answer
    cases answer
  · rw [done]
    have stored : (b.listTraces service .empty w.state).1 = .error e' := asked
    refine failed_of_last rfl ?_
    rw [stored]
    exact Option.some_ne_none e'
  · rw [done] at answer
    cases found : lastListedTrace (normalize name) l with
    | some id =>
      rw [found] at answer
      cases answer
    | none =>
      rw [found] at answer
      cases answer
      cases lasting

end Resolver

namespace Upload

/-- A collector is poisoned by the last call, which failed. -/
theorem Carries.failed {before : List CallRecord} {purpose : ServiceId × TraceId × BatchPolicy}
    {k : BatchCollector} {taken : List Event} {w : Stamped σ}
    (h : Carries before purpose k taken w) (poisoned : k.phase = .poisoned) : Failed before w := by
  obtain ⟨sent, log, ledger⟩ := h.log
  have lost := ledger.lost_iff.mpr poisoned
  refine ⟨sent, log, ?_⟩
  rw [lostBatch?] at lost
  cases last : sent.getLast? with
  | none =>
    rw [last] at lost
    cases lost
  | some x =>
    rw [last, Option.bind_some] at lost
    refine ⟨x, List.mem_of_getLast? last, ?_⟩
    intro fine
    rw [fine] at lost
    cases lost

/-- While an upload feeds its chain, only a call that fails can stop it. -/
theorem running_fails (b : Backend σ) (request : UploadRequest) (rules : ExclusionRules)
    (before : List CallRecord) (purpose : ServiceId × TraceId × BatchPolicy) :
    EventSource.Keeps b (Running request rules before purpose) fun _ w => Failed before w where
  taken := (running_keeps b request rules before purpose).taken
  ticked := (running_keeps b request rules before purpose).ticked
  woken := (running_keeps b request rules before purpose).woken
  refused := by
    rintro m e seen _ w fault ⟨n, k, taken, rfl, carries, isOpen, -, -⟩ failed
    rcases stages_process_cases request rules b.stamped m e n k w with
      ⟨_, done⟩ | ⟨_, _, _, done⟩ | ⟨_, _, refused, done⟩
    · rw [done] at failed
      cases failed
    · rw [done] at failed
      cases failed
    · rw [done]
      have poisoned := BatchCollector.phase_of_process_error isOpen refused
      exact (carries.process b m e).failed poisoned
  stuck := by
    rintro now seen _ w fault ⟨n, k, taken, rfl, carries, isOpen, -, -⟩ failed
    rw [stages_flushIfDue] at failed ⊢
    have poisoned := BatchCollector.phase_of_flushIfDue_error isOpen failed
    exact (carries.flushIfDue b now).failed poisoned

theorem Running.failed_of_close {request : UploadRequest} {rules : ExclusionRules}
    {before : List CallRecord} {purpose : ServiceId × TraceId × BatchPolicy} {seen : List Event}
    {c : Collector} {w : Stamped σ} (h : Running request rules before purpose seen c w)
    {b : Backend σ} {fault : CollectorError} (failed : (c.close b.stamped w).1 = .error fault) :
    Failed before (c.close b.stamped w).2.2 := by
  obtain ⟨n, k, taken, rfl, carries, isOpen, -, -⟩ := h
  rw [stages_close] at failed ⊢
  exact (carries.close b).failed (BatchCollector.phase_of_close_error isOpen failed)

theorem failed_of_deliver {b : Backend σ} {setting : UploadSetting} {service : ServiceId}
    {chosen : UploadTarget} {request : UploadRequest} {rules : ExclusionRules}
    {source : EventSource} {w : Stamped σ} {e : SyncError}
    (stopped : (deliver b.stamped service chosen (source.feed b)
      (chain setting service chosen.id request rules) w).1 = .error e) :
    Failed w.calls (deliver b.stamped service chosen (source.feed b)
      (chain setting service chosen.id request rules) w).2.2 := by
  have first := chain_running setting service chosen.id request rules w
  obtain ⟨good, bad⟩ := (running_fails b request rules _ _).feed source first
  rcases deliver_cases b.stamped service chosen (source.feed b)
      (chain setting service chosen.id request rules) w with
    ⟨fault, fed, done⟩ | ⟨n, fed, fault, closed, done⟩ | ⟨n, fed, closed, done⟩
  · rw [done]
    exact bad fault fed
  · rw [done]
    exact (good n fed).failed_of_close closed
  · rw [done] at stopped
    cases stopped

/-- Why an upload is refused without any fault of the backend. -/
inductive Refused (b : Backend σ) (setting : UploadSetting) (request : UploadRequest)
    (r : Resolver) (w : Stamped σ) : Prop where
  | invalid (unreadable : ¬ request.Valid)
  | unlisted (kind : NameKind) (name : String)
      (absent : (serviceFound b setting request r w).1 = .error (.notFound kind name))
  | taken (service : ServiceId) (id : TraceId)
      (served : (serviceFound b setting request r w).1 = .ok service)
      (known : (traceFound b setting request r w service).1 = some (.ok id))
      (closed : request.append = false)

section Stops

variable {b : Backend σ} {setting : UploadSetting} {request : UploadRequest} {r : Resolver}
  {w : Stamped σ}

theorem failed_of_search {service : ServiceId} {e : ResolveError}
    (answer : (search b.stamped setting service request r w).1 = some (.error e))
    (lasting : e.isNotFound = false) :
    Failed w.calls (search b.stamped setting service request r w).2.2 := by
  rw [search] at answer ⊢
  cases named : request.trace with
  | none =>
    rw [named] at answer
    cases answer
  | some name =>
    rw [named] at answer
    exact Resolver.failed_of_trace (Option.some.inj answer) lasting

theorem failed_of_create {service : ServiceId} {e : SyncError}
    (answer : (create b.stamped setting.now service (traceName setting request) request r w).1 =
      .error e) :
    Failed w.calls
      (create b.stamped setting.now service (traceName setting request) request r w).2.2 := by
  rw [create, stamped_createTrace] at answer ⊢
  rcases asked : b.createTrace service
      ⟨traceName setting request, request.tags.withoutReserved, request.baseSpec⟩ w.state with
    ⟨refused | info, s'⟩
  · exact failed_of_last rfl (Option.some_ne_none refused)
  · simp only [asked] at answer
    cases answer

/-- The choice of a trace fails because the trace is taken or because a call failed. -/
theorem failed_of_target {service : ServiceId} {e : SyncError}
    (stopped : (target b.stamped setting service request r w).1 = .error e) :
    (∃ id, (search b.stamped setting service request r w).1 = some (.ok id) ∧
      request.append = false) ∨
    Failed w.calls (target b.stamped setting service request r w).2.2 := by
  have searched := (search_logged b setting service request r w).grown
  rcases found_cases (search b.stamped setting service request r w).1 with
    ⟨e', failed, lasting⟩ | ⟨id, known⟩ | absent
  · rw [target_of_error failed lasting]
    exact .inr (failed_of_search failed lasting)
  · rw [target_of_found known] at stopped
    cases allowed : request.append with
    | true =>
      rw [allowed] at stopped
      cases stopped
    | false => exact .inl ⟨id, known, rfl⟩
  · rw [target_of_absent absent] at stopped ⊢
    exact .inr ((failed_of_create stopped).earlier searched)

theorem name_of_target {service : ServiceId} {chosen : UploadTarget}
    (picked : (target b.stamped setting service request r w).1 = .ok chosen) :
    chosen.name = traceName setting request := by
  rcases found_cases (search b.stamped setting service request r w).1 with
    ⟨e', failed, lasting⟩ | ⟨id, known⟩ | absent
  · rw [target_of_error failed lasting] at picked
    cases picked
  · rw [target_of_found known] at picked
    cases allowed : request.append with
    | true =>
      rw [allowed] at picked
      cases picked
      rfl
    | false =>
      rw [allowed] at picked
      cases picked
  · rw [target_of_absent absent] at picked
    rcases (create_cases b setting service request setting.now _ _).2 with
      ⟨e, -, done⟩ | ⟨info, -, done⟩
    · rw [done] at picked
      cases picked
    · rw [done] at picked
      cases picked
      rfl

theorem name_of_deliver {service : ServiceId} {chosen : UploadTarget}
    {feed : Collector → σ → Feed.Outcome σ} {b : Backend σ} {c : Collector} {s : σ}
    {summary : UploadSummary} (ok : (deliver b service chosen feed c s).1 = .ok summary) :
    summary.traceName = chosen.name := by
  rcases deliver_cases b service chosen feed c s with
    ⟨fault, _, done⟩ | ⟨n, _, fault, _, done⟩ | ⟨n, _, _, done⟩
  · rw [done] at ok
    cases ok
  · rw [done] at ok
    cases ok
  · rw [done] at ok
    cases ok
    rfl

/-- An upload that was neither refused nor let down by the backend: it has delivered the events that
pass to the trace of the name. -/
structure Delivered (setting : UploadSetting) (request : UploadRequest) (events : List Event)
    (before : List CallRecord) (o : UploadOutcome (Stamped σ)) (rules : ExclusionRules)
    (summary : UploadSummary) : Prop where
  compiled : ExclusionRules.compile request.hostExclusions request.pathExclusions = .ok rules
  result : o.result = .ok summary
  name : summary.traceName = traceName setting request
  accounted : ∃ calls, o.state.calls = before ++ calls ∧
    Accounted request rules setting.policy events summary calls

/-- Nothing but a refusal and a failed call keeps an upload from delivering. -/
theorem refused_or_failed_or_delivered (source : EventSource) :
    Refused b setting request r w ∨
      Failed w.calls (source.upload b setting request r w).state ∨
      ∃ rules summary, Delivered setting request source.events w.calls
        (source.upload b setting request r w) rules summary := by
  rw [source.upload_eq]
  rcases request.compile_cases with ⟨_, rules, compiled⟩ | ⟨invalid, _⟩
  · have looked := (r.service_logged b setting.now request.service w).grown
    cases found : (r.service b.stamped setting.now request.service w).1 with
    | error e =>
      rw [run_of_service_error compiled found]
      cases e with
      | notFound kind name => exact .inl (.unlisted kind name found)
      | backend kind name source => exact .inr (.inl (Resolver.failed_of_service found rfl))
    | ok service =>
      obtain ⟨bad, good⟩ := run_of_service (source.feed b) compiled found
      cases picked : (target b.stamped setting service request
          (r.service b.stamped setting.now request.service w).2.1
          (r.service b.stamped setting.now request.service w).2.2).1 with
      | error e =>
        rw [bad e picked]
        rcases failed_of_target picked with ⟨id, known, closed⟩ | failed
        · exact .inl (.taken service id found known closed)
        · exact .inr (.inl (failed.earlier looked))
      | ok t =>
        rw [good t picked]
        obtain ⟨calls, before, quiet⟩ := ((r.quiet_service b setting.now request.service w).trans
          (quiet_target b setting service request _ _)).log
        cases written : (deliver b.stamped service t (source.feed b)
            (chain setting service t.id request rules) _).1 with
        | error e => exact .inr (.inl ((failed_of_deliver written).earlier ⟨calls, before⟩))
        | ok summary =>
          obtain ⟨sent, log, accounted⟩ :=
            deliver_accounted b setting service t request rules source _ written
          refine .inr (.inr ⟨rules, summary, compiled, rfl, ?_, calls ++ sent, ?_, ?_⟩)
          · exact (name_of_deliver written).trans (name_of_target picked)
          · exact log.trans ((congrArg (· ++ sent) before).trans (List.append_assoc _ _ _))
          · exact accounted.after_quiet quiet
  · exact .inl (.invalid invalid)

end Stops

end Upload

end TrafficTrace
