import TrafficTrace.Backend.Script
import TrafficTrace.Proofs.Sync.Uploader

/-!
# Where events are sent

The identifier of all zeros names nothing. A listing does not bring it into the resolver's memory,
nor does a creation, so a trace that was found is never the zero trace. A trace that was created is
written to under whatever identifier the backend answered, and this may be the zero one.
-/
namespace TrafficTrace

open Backend

variable {σ : Type}

namespace Cache

variable {κ α : Type} [DecidableEq κ]

/-- All values that the cache holds satisfy a condition. -/
def All (p : α → Prop) (c : Cache κ α) : Prop := ∀ key e, c.entries.get? key = some e → p e.value

theorem all_empty (p : α → Prop) (fresh hard : Duration) :
    (empty fresh hard : Cache κ α).All p := by
  intro key e held
  cases held

namespace All

variable {p : α → Prop} {c : Cache κ α}

theorem get (h : c.All p) {now : Instant} {key : κ} {value : α}
    (hit : c.get? now key = some value) : p value := by
  rw [Cache.get?] at hit
  cases entry : c.entries.get? key with
  | none =>
    rw [entry] at hit
    cases hit
  | some e =>
    simp only [entry] at hit
    split at hit
    · cases hit
      exact h key e entry
    · cases hit

theorem put (h : c.All p) (now : Instant) (key : κ) {value : α} (good : p value) :
    (c.put now key value).All p := by
  intro k e held
  rw [Cache.put, Assoc.get?_put] at held
  split at held
  · cases held
    exact good
  · exact h k e held

theorem prune (h : c.All p) (now : Instant) : (c.prune now).All p := by
  intro k e held
  rw [Cache.prune, Assoc.get?_filter, Option.filter_eq_some_iff] at held
  exact h k e held.1

theorem populate (h : c.All p) (now : Instant) {values : List (κ × α)}
    (good : ∀ v ∈ values, p v.2) : (c.populate now values).All p := by
  rw [Cache.populate]
  apply prune
  induction values generalizing c with
  | nil => exact h
  | cons v rest ih =>
    apply ih (h.put now v.1 (good v List.mem_cons_self))
    exact fun w hw => good w (List.mem_cons_of_mem _ hw)

end All

end Cache

namespace Resolver

/-- No trace in memory is the zero trace. -/
def Real (r : Resolver) : Prop := r.traces.All fun id => id.isNil = false

theorem real_empty (fresh hard : Duration) : (empty fresh hard).Real := Cache.all_empty _ fresh hard

theorem real_of_mem_listed {k : IdKind} {items : List (String × Id k)} {i : String × Id k}
    (h : i ∈ listed items) : i.2.isNil = false := by
  obtain ⟨j, kept, rfl⟩ := List.mem_map.mp h
  simpa using (List.mem_filter.mp kept).2

theorem real_of_lastListed {k : IdKind} {key : String} {items : List (String × Id k)} {id : Id k}
    (h : lastListed key items = some id) : id.isNil = false := by
  obtain ⟨i, last, rfl⟩ := Option.map_eq_some_iff.mp h
  have kept := (List.mem_filter.mp (List.mem_of_getLast? last)).2
  rw [Bool.and_eq_true, Bool.not_eq_true'] at kept
  exact kept.2

variable {r : Resolver}

theorem Real.populate (h : r.Real) (now : Instant) (service : ServiceId) (l : List TraceInfo) :
    Real { r with traces := r.traces.populate now (within service (listedTraces l)) } := by
  apply Cache.All.populate h
  intro v given
  obtain ⟨i, shown, rfl⟩ := List.mem_map.mp given
  exact real_of_mem_listed shown

theorem Real.service (h : r.Real) (b : Backend σ) (now : Instant) (name : String) (s : σ) :
    (r.service b now name s).2.1.Real := by
  rw [Real, traces_service]
  exact h

theorem Real.trace (h : r.Real) (b : Backend σ) (now : Instant) (service : ServiceId)
    (name : String) (s : σ) : (r.trace b now service name s).2.1.Real := by
  rcases r.trace_cases b now service name s with
    ⟨id, _, done⟩ | ⟨_, e, _, done⟩ | ⟨_, l, _, done⟩
  · rw [done]
    exact h
  · rw [done]
    exact h
  · rw [done]
    exact h.populate now service l

/-- What is found names something. -/
theorem Real.found (h : r.Real) {b : Backend σ} {now : Instant} {service : ServiceId}
    {name : String} {s : σ} {id : TraceId} (ok : (r.trace b now service name s).1 = .ok id) :
    id.isNil = false := by
  rcases r.trace_cases b now service name s with
    ⟨id', hit, done⟩ | ⟨_, e, _, done⟩ | ⟨_, l, _, done⟩
  · rw [done] at ok
    cases ok
    exact Cache.All.get h hit
  · rw [done] at ok
    cases ok
  · rw [done] at ok
    cases last : lastListedTrace (normalize name) l with
    | none =>
      rw [last] at ok
      cases ok
    | some id' =>
      rw [last] at ok
      cases ok
      exact real_of_lastListed last

theorem Real.remember (h : r.Real) (now : Instant) (service : ServiceId) (name : String)
    (id : TraceId) : (r.remember now service name id).Real := by
  rw [Resolver.remember]
  split
  · exact h
  · rename_i real
    exact Cache.All.put h now _ (Bool.eq_false_iff.mpr real)

theorem real_clear (r : Resolver) : r.clear.Real := by
  intro key e held
  cases held

end Resolver

namespace Upload

variable {b : Backend σ} {setting : UploadSetting} {request : UploadRequest} {r : Resolver}

theorem real_search (h : r.Real) (b : Backend σ) (setting : UploadSetting) (service : ServiceId)
    (request : UploadRequest) (s : σ) : (search b setting service request r s).2.1.Real := by
  rw [search]
  cases request.trace with
  | none => exact h
  | some name => exact h.trace b setting.now service name s

theorem real_of_search (h : r.Real) {service : ServiceId} {s : σ} {id : TraceId}
    (known : (search b setting service request r s).1 = some (.ok id)) : id.isNil = false := by
  rw [search] at known
  cases named : request.trace with
  | none =>
    rw [named] at known
    cases known
  | some name =>
    rw [named] at known
    exact h.found (Option.some.inj known)

theorem real_target (h : r.Real) (b : Backend σ) (setting : UploadSetting) (service : ServiceId)
    (request : UploadRequest) (s : σ) : (target b setting service request r s).2.1.Real := by
  have searched := real_search h b setting service request s
  rcases found_cases (search b setting service request r s).1 with
    ⟨e, failed, lasting⟩ | ⟨id, known⟩ | absent
  · rw [target_of_error failed lasting]
    exact searched
  · rw [target_of_found known]
    exact searched
  · rw [target_of_absent absent, create]
    rcases b.createTrace service _ _ with ⟨e | info, s'⟩
    · exact searched
    · exact searched.remember _ _ _ _

theorem real_upload (h : r.Real) (b : Backend σ) (setting : UploadSetting)
    (request : UploadRequest) (source : EventSource) (w : Stamped σ) :
    (source.upload b setting request r w).resolver.Real := by
  have looked := h.service b.stamped setting.now request.service w
  rcases upload_cases b setting request source r w with
    ⟨same, -⟩ | ⟨same, -⟩ | ⟨service, same, -⟩
  · rw [same]
    exact h
  · rw [same]
    exact looked
  · rw [same]
    exact real_target looked b.stamped setting service request _

/-- Where the target of an append comes from: it was found, or the backend answered it to the
request to create it. -/
inductive Origin (b : Backend σ) (setting : UploadSetting) (request : UploadRequest) (r : Resolver)
    (w : Stamped σ) (calls : List BackendCall) (service : ServiceId) (trace : TraceId) : Prop where
  | found (known : (traceFound b setting request r w service).1 = some (.ok trace))
      (real : trace.isNil = false)
  | created (absent : Absent (traceFound b setting request r w service).1)
      (asked : .createTrace service (creation setting request) ∈ calls)
      (info : TraceInfo)
      (answered : (b.createTrace service (creation setting request)
        (traceFound b setting request r w service).2.2.state).1 = .ok info)
      (same : info.id = trace)

theorem append_notMem_serviceCalls (r : Resolver) (now : Instant) (name : String)
    (service : ServiceId) (trace : TraceId) (batch : EventBatch) :
    BackendCall.appendEvents service trace batch ∉ r.serviceCalls now name := by
  rw [Resolver.serviceCalls]
  split <;> simp

theorem append_notMem_lookupCalls (setting : UploadSetting) (request : UploadRequest)
    (r : Resolver) (asked service : ServiceId) (trace : TraceId) (batch : EventBatch) :
    BackendCall.appendEvents service trace batch ∉ lookupCalls setting request r asked := by
  rw [lookupCalls, List.mem_append]
  rintro (sent | sent)
  · exact append_notMem_serviceCalls _ _ _ _ _ _ sent
  · rw [searchCalls] at sent
    split at sent
    · cases sent
    · rw [Resolver.traceCalls] at sent
      split at sent <;> simp at sent

theorem eq_of_append_mem_appends {asked service : ServiceId} {id trace : TraceId}
    {batches : List EventBatch} {batch : EventBatch}
    (sent : BackendCall.appendEvents service trace batch ∈ appends asked id batches) :
    service = asked ∧ trace = id := by
  obtain ⟨x, _, same⟩ := List.mem_map.mp sent
  cases same
  exact ⟨rfl, rfl⟩

/-- The targets of one upload, once its service is known. -/
theorem Served.origin {w : Stamped σ} {asked : ServiceId}
    {result : Except SyncError UploadSummary} {calls : List BackendCall} (h : r.Real)
    (served : Served b setting request r w asked result calls) {service : ServiceId}
    {trace : TraceId} {batch : EventBatch}
    (sent : .appendEvents service trace batch ∈ calls) :
    Origin b setting request r w calls service trace := by
  have unsent := append_notMem_lookupCalls setting request r asked service trace batch
  rcases found_cases (traceFound b setting request r w asked).1 with
    ⟨e, failed, lasting⟩ | ⟨id, known⟩ | absent
  · rw [(served.failed e failed lasting).2] at sent
    exact absurd sent unsent
  · have looked : (serviceFound b setting request r w).2.1.Real := h.service _ _ _ _
    cases allowed : request.append with
    | false =>
      rw [(served.refused id known allowed).2] at sent
      exact absurd sent unsent
    | true =>
      obtain ⟨_, batches, shape⟩ := served.appended id known allowed
      rw [shape] at sent
      rcases List.mem_append.mp sent with sent | sent
      · exact absurd sent unsent
      · obtain ⟨rfl, rfl⟩ := eq_of_append_mem_appends sent
        exact .found known (real_of_search looked known)
  · cases answer : (b.createTrace asked (creation setting request)
        (traceFound b setting request r w asked).2.2.state).1 with
    | error e =>
      rw [(served.notCreated absent e answer).2] at sent
      rcases List.mem_append.mp sent with sent | sent
      · exact absurd sent unsent
      · simp at sent
    | ok info =>
      obtain ⟨_, batches, shape⟩ := served.created absent info answer
      have asking : .createTrace asked (creation setting request) ∈ calls := by
        rw [shape]
        exact List.mem_append_right _ List.mem_cons_self
      rw [shape] at sent
      rcases List.mem_append.mp sent with sent | sent
      · exact absurd sent unsent
      · rcases List.mem_cons.mp sent with other | sent
        · cases other
        · obtain ⟨rfl, rfl⟩ := eq_of_append_mem_appends sent
          exact .created absent asking info answer rfl

end Upload

namespace Uploader

open Upload

/-- Whatever an uploader was used for before: it sends events to a trace that was found, and this is
not the zero trace, or to the one that the backend named when it was asked to create it. Only such
an answer can send events to the zero trace. -/
theorem target_found_or_created (b : Backend σ) (client : Uuid) (policy : BatchPolicy)
    (fresh hard : Duration) (s : σ) (errands : List (Nat × Errand)) (bytes : Uuid)
    (request : UploadRequest) (source : EventSource) :
    let x := (start client policy fresh hard s).run b errands
    ∃ calls, Logged x.world (x.upload b bytes request source).state calls ∧
      ∀ service trace batch, .appendEvents service trace batch ∈ calls →
        Origin b (x.setting bytes) request x.resolver x.world calls service trace := by
  intro x
  have real : x.resolver.Real :=
    resolver_run (P := Resolver.Real) (fun r _ => r.real_clear)
      (fun setting request source _ w h => real_upload h b setting request source w) _ errands
      (Resolver.real_empty fresh hard)
  have same : x.upload b bytes request source =
      Upload.run b.stamped (x.setting bytes) request (source.feed b) x.resolver x.world :=
    source.upload_eq ..
  rcases request.compile_cases with ⟨_, rules, compiled⟩ | ⟨_, _, _, _, _, _, refused⟩
  · cases found : (serviceFound b (x.setting bytes) request x.resolver x.world).1 with
    | error e =>
      rw [same, run_of_service_error compiled found]
      refine ⟨_, x.resolver.service_logged b x.now request.service x.world, ?_⟩
      intro service trace batch sent
      exact absurd sent (append_notMem_serviceCalls _ _ _ _ _ _)
    | ok asked =>
      obtain ⟨calls, log, served⟩ := served_of_service source compiled found
      exact ⟨calls, log, fun _ _ _ sent => served.origin real sent⟩
  · rw [same, run_of_compile_error refused]
    exact ⟨[], .refl _, fun _ _ _ sent => absurd sent List.not_mem_nil⟩

/-- The trace that an append goes to. -/
def targetOf? : BackendCall → Option TraceId
  | .appendEvents _ trace _ => some trace
  | _ => none

/-- A backend that answers the zero identifier to a creation is sent the events under it, and the
upload succeeds. -/
theorem zero_trace_receives_events :
    let shop : ServiceId := ⟨.fill 1⟩
    let s : Script := ⟨.ok [⟨shop, "Shop"⟩], .ok [], [.ok (some .nil)], [], 0, fun _ => ⟨.fill 2⟩⟩
    let x := Uploader.start .nil .standard (.ofSecs 30) (.ofSecs 300) s
    let o := x.upload scripted .nil ⟨"shop", some "Orders", false, .empty, none, false, [], []⟩
      (.ready [(⟨0, .nil⟩, .request "GET" "shop.example" "/" .epoch)])
    o.state.calls.filterMap (targetOf? ·.call) = [.nil] ∧ o.result.isOk = true := by
  decide +kernel

end Uploader

end TrafficTrace
