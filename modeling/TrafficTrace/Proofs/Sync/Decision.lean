import TrafficTrace.Backend.Script
import TrafficTrace.Proofs.Resolve.History
import TrafficTrace.Proofs.Sync.Pipeline

/-!
# Which trace an upload writes to

What an upload comes to and which calls it makes, as rules: what is wrong with the request is found
before anything is asked, a trace that exists is written to only when that is allowed, and one that
does not is created once. A name that the resolver has in memory is looked up without a call.
-/
namespace TrafficTrace

open Backend

variable {σ : Type}

/-- The calls that append batches to a trace. -/
def Backend.appends (service : ServiceId) (trace : TraceId) (batches : List EventBatch) :
    List BackendCall := batches.map (.appendEvents service trace)

namespace Resolver

def serviceCalls (r : Resolver) (now : Instant) (name : String) : List BackendCall :=
  if (r.services.get? now (normalize name)).isSome then [] else [.listServices]

def traceCalls (r : Resolver) (now : Instant) (service : ServiceId) (name : String) :
    List BackendCall :=
  if (r.traces.get? now (service, normalize name)).isSome then [] else [.listTraces service .empty]

theorem service_logged (b : Backend σ) (now : Instant) (name : String) (r : Resolver)
    (w : Stamped σ) :
    Logged w (r.service b.stamped now name w).2.2 (r.serviceCalls now name) := by
  rw [serviceCalls]
  rcases r.service_cases b.stamped now name w with
    ⟨id, hit, done⟩ | ⟨miss, e, _, done⟩ | ⟨miss, l, _, done⟩
  · rw [done, hit]
    exact .refl w
  · rw [done, miss]
    exact ⟨[_], rfl, rfl⟩
  · rw [done, miss]
    exact ⟨[_], rfl, rfl⟩

theorem trace_logged (b : Backend σ) (now : Instant) (service : ServiceId) (name : String)
    (r : Resolver) (w : Stamped σ) :
    Logged w (r.trace b.stamped now service name w).2.2 (r.traceCalls now service name) := by
  rw [traceCalls]
  rcases r.trace_cases b.stamped now service name w with
    ⟨id, hit, done⟩ | ⟨miss, e, _, done⟩ | ⟨miss, l, _, done⟩
  · rw [done, hit]
    exact .refl w
  · rw [done, miss]
    exact ⟨[_], rfl, rfl⟩
  · rw [done, miss]
    exact ⟨[_], rfl, rfl⟩

/-- A lookup of a service leaves the traces alone. -/
theorem traces_service (b : Backend σ) (now : Instant) (name : String) (r : Resolver) (s : σ) :
    (r.service b now name s).2.1.traces = r.traces := by
  rcases r.service_cases b now name s with ⟨_, _, done⟩ | ⟨_, _, _, done⟩ | ⟨_, _, _, done⟩ <;>
    rw [done]

end Resolver

namespace ExclusionRules

theorem compileAll_cases (field : ExclusionField) (patterns : List String) :
    (∃ exprs, compileAll field patterns = .ok exprs ∧
      ∀ p ∈ patterns, ∃ expr, Pattern.parse p = .ok expr) ∨
    ∃ p ∈ patterns, ∃ fault, Pattern.parse p = .error fault ∧
      compileAll field patterns = .error (.invalidPattern field p fault) := by
  induction patterns with
  | nil => exact .inl ⟨[], rfl, by simp⟩
  | cons p rest ih =>
    rw [compileAll]
    cases read : Pattern.parse p with
    | error fault => exact .inr ⟨p, List.mem_cons_self, fault, read, rfl⟩
    | ok expr =>
      rcases ih with ⟨exprs, done, valid⟩ | ⟨q, given, fault, bad, done⟩
      · refine .inl ⟨expr :: exprs, by simp only [done, Except.map], ?_⟩
        intro q given
        rcases List.mem_cons.mp given with rfl | given
        · exact ⟨expr, read⟩
        · exact valid q given
      · exact .inr ⟨q, List.mem_cons_of_mem _ given, fault, bad, by simp only [done, Except.map]⟩

end ExclusionRules

namespace UploadRequest

def patterns (request : UploadRequest) : ExclusionField → List String
  | .host => request.hostExclusions
  | .path => request.pathExclusions

/-- Every pattern of the request can be read. -/
def Valid (request : UploadRequest) : Prop :=
  ∀ field, ∀ p ∈ request.patterns field, ∃ expr, Pattern.parse p = .ok expr

/-- The patterns are compiled together, or the first that cannot be read is reported. -/
theorem compile_cases (request : UploadRequest) :
    (request.Valid ∧
      ∃ rules, ExclusionRules.compile request.hostExclusions request.pathExclusions = .ok rules) ∨
    (¬ request.Valid ∧ ∃ field, ∃ p ∈ request.patterns field, ∃ fault,
      Pattern.parse p = .error fault ∧
      ExclusionRules.compile request.hostExclusions request.pathExclusions =
        .error (.invalidPattern field p fault)) := by
  have unread : ∀ field {p fault}, p ∈ request.patterns field →
      Pattern.parse p = .error fault → ¬ request.Valid := by
    intro field p fault given bad valid
    obtain ⟨expr, read⟩ := valid field p given
    rw [read] at bad
    cases bad
  rw [ExclusionRules.compile]
  rcases ExclusionRules.compileAll_cases .host request.hostExclusions with
    ⟨hosts, done, hostsValid⟩ | ⟨p, given, fault, bad, done⟩
  · rw [done]
    rcases ExclusionRules.compileAll_cases .path request.pathExclusions with
      ⟨paths, done, pathsValid⟩ | ⟨p, given, fault, bad, done⟩
    · rw [done]
      refine .inl ⟨fun field => ?_, ⟨hosts, paths⟩, rfl⟩
      cases field with
      | host => exact hostsValid
      | path => exact pathsValid
    · rw [done]
      exact .inr ⟨unread .path given bad, .path, p, given, fault, bad, rfl⟩
  · rw [done]
    exact .inr ⟨unread .host given bad, .host, p, given, fault, bad, rfl⟩

end UploadRequest

namespace Upload

/-- The requested name, or the one that is made up. -/
def traceName (setting : UploadSetting) (request : UploadRequest) : String :=
  request.trace.getD (TraceName.ofBytes setting.fresh)

/-- What is sent to create the trace of a request. -/
def creation (setting : UploadSetting) (request : UploadRequest) : CreateTraceRequest where
  name := traceName setting request
  tags := request.tags.filter fun tag =>
    !"x-tracehound-".toList.isPrefixOf (Text.asciiLower tag.1).toList
  baseSpec := request.baseSpec

/-- The lookup of the requested trace; without a name nothing is looked up. -/
def search (b : Backend σ) (setting : UploadSetting) (service : ServiceId)
    (request : UploadRequest) (r : Resolver) (s : σ) :
    Option (Except ResolveError TraceId) × Resolver × σ :=
  match request.trace with
  | none => (none, r, s)
  | some name =>
    let found := r.trace b setting.now service name s
    (some found.1, found.2)

def searchCalls (setting : UploadSetting) (service : ServiceId) (request : UploadRequest)
    (r : Resolver) : List BackendCall :=
  match request.trace with
  | none => []
  | some name => r.traceCalls setting.now service name

/-- There is no such trace, as far as was looked. -/
def Absent (found : Option (Except ResolveError TraceId)) : Prop :=
  ∀ answer, found = some answer → ∃ kind name, answer = .error (.notFound kind name)

/-- What a search can find. -/
theorem found_cases (found : Option (Except ResolveError TraceId)) :
    (∃ e, found = some (.error e) ∧ e.isNotFound = false) ∨ (∃ id, found = some (.ok id)) ∨
      Absent found := by
  rcases found with _ | (e | id)
  · exact .inr (.inr nofun)
  · cases e with
    | notFound kind name =>
      refine .inr (.inr ?_)
      rintro _ ⟨⟩
      exact ⟨kind, name, rfl⟩
    | backend kind name source => exact .inl ⟨_, rfl, rfl⟩
  · exact .inr (.inl ⟨id, rfl⟩)

section Choice

variable {b : Backend σ} {setting : UploadSetting} {service : ServiceId}
  {request : UploadRequest} {r : Resolver} {s : σ}

theorem target_of_error {e : ResolveError}
    (found : (search b setting service request r s).1 = some (.error e))
    (lasting : e.isNotFound = false) :
    target b setting service request r s = (.error (.traceLookup (traceName setting request) e),
      (search b setting service request r s).2) := by
  rw [search] at found ⊢
  rw [target, traceName]
  cases named : request.trace with
  | none => simp [named] at found
  | some name =>
    simp only [named] at found ⊢
    rcases answer : r.trace b setting.now service name s with ⟨e' | id, r', s'⟩
    · rw [answer] at found
      cases found
      cases e with
      | notFound kind n => cases lasting
      | backend kind n source => rfl
    · rw [answer] at found
      cases found

theorem target_of_found {id : TraceId}
    (found : (search b setting service request r s).1 = some (.ok id)) :
    target b setting service request r s =
      (if request.append then .ok ⟨id, traceName setting request, false⟩
        else .error (.traceExists request.service (traceName setting request)),
        (search b setting service request r s).2) := by
  rw [search] at found ⊢
  rw [target, traceName]
  cases named : request.trace with
  | none => simp [named] at found
  | some name =>
    simp only [named] at found ⊢
    rcases answer : r.trace b setting.now service name s with ⟨e' | id', r', s'⟩
    · rw [answer] at found
      cases found
    · rw [answer] at found
      cases found
      cases request.append <;> rfl

theorem target_of_absent (absent : Absent (search b setting service request r s).1) :
    target b setting service request r s =
      create b setting.now service (traceName setting request) request
        (search b setting service request r s).2.1
        (search b setting service request r s).2.2 := by
  rw [search] at absent ⊢
  rw [target, traceName]
  cases named : request.trace with
  | none => rfl
  | some name =>
    simp only [named] at absent ⊢
    obtain ⟨kind, n, missing⟩ := absent _ rfl
    rcases answer : r.trace b setting.now service name s with ⟨e | id, r', s'⟩
    · rw [answer] at missing
      cases missing
      rfl
    · rw [answer] at missing
      cases missing

end Choice

theorem search_logged (b : Backend σ) (setting : UploadSetting) (service : ServiceId)
    (request : UploadRequest) (r : Resolver) (w : Stamped σ) :
    Logged w (search b.stamped setting service request r w).2.2
      (searchCalls setting service request r) := by
  rw [search, searchCalls]
  cases request.trace with
  | none => exact .refl w
  | some name => exact r.trace_logged b setting.now service name w

section Run

variable {b : Backend σ} {setting : UploadSetting} {request : UploadRequest}
  {feed : Collector → σ → Feed.Outcome σ} {r : Resolver} {s : σ} {rules : ExclusionRules}

theorem run_of_compile_error {e : CollectorError}
    (bad : ExclusionRules.compile request.hostExclusions request.pathExclusions = .error e) :
    run b setting request feed r s = ⟨.error (.pipeline e), [], r, s⟩ := by
  simp only [run, bad]

theorem run_of_service_error {e : ResolveError}
    (compiled : ExclusionRules.compile request.hostExclusions request.pathExclusions = .ok rules)
    (failed : (r.service b setting.now request.service s).1 = .error e) :
    run b setting request feed r s = ⟨.error (.service request.service e), [],
      (r.service b setting.now request.service s).2.1,
      (r.service b setting.now request.service s).2.2⟩ := by
  rw [run]
  rcases answer : r.service b setting.now request.service s with ⟨e' | id, r', s'⟩
  · rw [answer] at failed
    cases failed
    simp only [compiled]
  · rw [answer] at failed
    cases failed

/-- With a service the rest depends on the chosen trace. -/
theorem run_of_service {service : ServiceId} (feed : Collector → σ → Feed.Outcome σ)
    (compiled : ExclusionRules.compile request.hostExclusions request.pathExclusions = .ok rules)
    (found : (r.service b setting.now request.service s).1 = .ok service) :
    let chosen := target b setting service request
      (r.service b setting.now request.service s).2.1
      (r.service b setting.now request.service s).2.2
    (∀ e, chosen.1 = .error e →
      run b setting request feed r s = ⟨.error e, [], chosen.2.1, chosen.2.2⟩) ∧
    ∀ t, chosen.1 = .ok t →
      let written := deliver b service t feed (chain setting service t.id request rules) chosen.2.2
      run b setting request feed r s = ⟨written.1, written.2.1, chosen.2.1, written.2.2⟩ := by
  intro chosen
  rw [run]
  rcases answer : r.service b setting.now request.service s with ⟨e' | id, r', s'⟩
  · rw [answer] at found
    cases found
  · rw [answer] at found
    cases found
    simp only [compiled]
    rcases pick : target b setting service request r' s' with ⟨e | t, r'', s''⟩
    · simp only [chosen, answer, pick]
      exact ⟨fun e' same => by cases same; rfl, nofun⟩
    · simp only [chosen, answer, pick]
      exact ⟨nofun, fun t' same => by cases same; rfl⟩

end Run

/-- How writing to a chosen trace ends: all went well, or an error of the chain. -/
def Wrote (service : ServiceId) (chosen : UploadTarget)
    (result : Except SyncError UploadSummary) : Prop :=
  (∃ summary, result = .ok summary ∧ summary.service = service ∧ summary.trace = chosen.id ∧
    summary.traceName = chosen.name ∧ summary.created = chosen.created) ∨
  ∃ fault, result = .error (.collect chosen.name fault)

theorem deliver_wrote (b : Backend σ) (setting : UploadSetting) (service : ServiceId)
    (chosen : UploadTarget) (request : UploadRequest) (rules : ExclusionRules)
    (source : EventSource) (w : Stamped σ) :
    let written := deliver b.stamped service chosen (source.feed b)
      (chain setting service chosen.id request rules) w
    (∃ batches, Logged w written.2.2 (appends service chosen.id batches)) ∧
    Wrote service chosen written.1 := by
  intro written
  have first := chain_running setting service chosen.id request rules w
  obtain ⟨good, bad⟩ := (running_keeps b request rules _ _).feed source first
  rcases deliver_cases b.stamped service chosen (source.feed b)
      (chain setting service chosen.id request rules) w with
    ⟨fault, stopped, done⟩ | ⟨n, fed, fault, _, done⟩ | ⟨n, fed, _, done⟩
  · obtain ⟨sent, log, batches, calls⟩ := (bad fault stopped).calls
    simp only [written, done]
    exact ⟨⟨batches, sent, log, calls⟩, .inr ⟨fault, rfl⟩⟩
  · obtain ⟨sent, log, batches, calls⟩ := ((good n fed).aimed.close b).calls
    simp only [written, done]
    exact ⟨⟨batches, sent, log, calls⟩, .inr ⟨fault, rfl⟩⟩
  · obtain ⟨sent, log, batches, calls⟩ := ((good n fed).aimed.close b).calls
    simp only [written, done]
    exact ⟨⟨batches, sent, log, calls⟩, .inl ⟨_, rfl, rfl, rfl, rfl, rfl⟩⟩

/-- The lookup of the service of a request. -/
def serviceFound (b : Backend σ) (setting : UploadSetting) (request : UploadRequest)
    (r : Resolver) (w : Stamped σ) : Except ResolveError ServiceId × Resolver × Stamped σ :=
  r.service b.stamped setting.now request.service w

/-- The lookup of its trace after that. -/
def traceFound (b : Backend σ) (setting : UploadSetting) (request : UploadRequest)
    (r : Resolver) (w : Stamped σ) (service : ServiceId) :
    Option (Except ResolveError TraceId) × Resolver × Stamped σ :=
  search b.stamped setting service request (serviceFound b setting request r w).2.1
    (serviceFound b setting request r w).2.2

/-- The calls of both lookups. -/
def lookupCalls (setting : UploadSetting) (request : UploadRequest) (r : Resolver)
    (service : ServiceId) : List BackendCall :=
  r.serviceCalls setting.now request.service ++ searchCalls setting service request r

theorem traceFound_logged (b : Backend σ) (setting : UploadSetting) (request : UploadRequest)
    (r : Resolver) (w : Stamped σ) (service : ServiceId) :
    Logged w (traceFound b setting request r w service).2.2
      (lookupCalls setting request r service) := by
  have same : searchCalls setting service request (serviceFound b setting request r w).2.1 =
      searchCalls setting service request r := by
    unfold searchCalls Resolver.traceCalls serviceFound
    rw [Resolver.traces_service]
  rw [lookupCalls, ← same]
  exact (r.service_logged b setting.now request.service w).trans
    (search_logged b setting service request _ _)

/-- What an upload comes to once its service is known, and the calls that it makes. -/
structure Served (b : Backend σ) (setting : UploadSetting) (request : UploadRequest)
    (r : Resolver) (w : Stamped σ) (service : ServiceId)
    (result : Except SyncError UploadSummary) (calls : List BackendCall) : Prop where
  /-- A lookup that failed: nothing is written. -/
  failed : ∀ e, (traceFound b setting request r w service).1 = some (.error e) →
    e.isNotFound = false →
    result = .error (.traceLookup (traceName setting request) e) ∧
    calls = lookupCalls setting request r service
  /-- A trace that exists is left alone. -/
  refused : ∀ id, (traceFound b setting request r w service).1 = some (.ok id) →
    request.append = false →
    result = .error (.traceExists request.service (traceName setting request)) ∧
    calls = lookupCalls setting request r service
  /-- It is written to when that is asked for. -/
  appended : ∀ id, (traceFound b setting request r w service).1 = some (.ok id) →
    request.append = true →
    Wrote service ⟨id, traceName setting request, false⟩ result ∧
    ∃ batches, calls = lookupCalls setting request r service ++ appends service id batches
  /-- A trace that could not be created is not written to. -/
  notCreated : Absent (traceFound b setting request r w service).1 →
    ∀ e, (b.createTrace service (creation setting request)
        (traceFound b setting request r w service).2.2.state).1 = .error e →
      result = .error (.createTrace (traceName setting request) e) ∧
      calls = lookupCalls setting request r service ++
        [.createTrace service (creation setting request)]
  /-- One that was created is. -/
  created : Absent (traceFound b setting request r w service).1 →
    ∀ info, (b.createTrace service (creation setting request)
        (traceFound b setting request r w service).2.2.state).1 = .ok info →
      Wrote service ⟨info.id, traceName setting request, true⟩ result ∧
      ∃ batches, calls = lookupCalls setting request r service ++
        .createTrace service (creation setting request) :: appends service info.id batches

/-- What an upload comes to, and the calls that it makes. -/
structure Decided (b : Backend σ) (setting : UploadSetting) (request : UploadRequest)
    (r : Resolver) (w : Stamped σ) (result : Except SyncError UploadSummary)
    (calls : List BackendCall) : Prop where
  /-- A pattern that cannot be read: nothing is asked. -/
  invalid : ¬ request.Valid →
    (∃ field, ∃ p ∈ request.patterns field, ∃ fault, Pattern.parse p = .error fault ∧
      result = .error (.pipeline (.invalidPattern field p fault))) ∧ calls = []
  /-- No service: nothing else is asked. -/
  noService : request.Valid → ∀ e, (serviceFound b setting request r w).1 = .error e →
    result = .error (.service request.service e) ∧
    calls = r.serviceCalls setting.now request.service
  served : request.Valid → ∀ service, (serviceFound b setting request r w).1 = .ok service →
    Served b setting request r w service result calls

section Rules

variable {b : Backend σ} {setting : UploadSetting} {request : UploadRequest} {r : Resolver}
  {w : Stamped σ} {service : ServiceId}

/-- The trace is chosen after both lookups. -/
theorem run_served (source : EventSource) {rules : ExclusionRules}
    (compiled : ExclusionRules.compile request.hostExclusions request.pathExclusions = .ok rules)
    (found : (serviceFound b setting request r w).1 = .ok service) :
    let chosen := target b.stamped setting service request
      (serviceFound b setting request r w).2.1 (serviceFound b setting request r w).2.2
    let o := source.upload b setting request r w
    (∀ e, chosen.1 = .error e → o.result = .error e ∧ o.state = chosen.2.2) ∧
    ∀ t, chosen.1 = .ok t → Wrote service t o.result ∧
      ∃ batches, Logged chosen.2.2 o.state (appends service t.id batches) := by
  intro chosen o
  obtain ⟨bad, good⟩ := run_of_service (source.feed b) compiled found
  have same : o = run b.stamped setting request (source.feed b) r w := source.upload_eq ..
  refine ⟨fun e failed => ?_, fun t picked => ?_⟩
  · rw [same, bad e failed]
    exact ⟨rfl, rfl⟩
  · obtain ⟨log, wrote⟩ := deliver_wrote b setting service t request rules source chosen.2.2
    rw [same, good t picked]
    exact ⟨wrote, log⟩

/-- One call, whatever is answered. -/
theorem create_cases (b : Backend σ) (setting : UploadSetting) (service : ServiceId)
    (request : UploadRequest) (now : Instant) (r : Resolver) (w : Stamped σ) :
    let done := create b.stamped now service (traceName setting request) request r w
    Logged w done.2.2 [.createTrace service (creation setting request)] ∧
    ((∃ e, (b.createTrace service (creation setting request) w.state).1 = .error e ∧
      done.1 = .error (.createTrace (traceName setting request) e)) ∨
    ∃ info, (b.createTrace service (creation setting request) w.state).1 = .ok info ∧
      done.1 = .ok ⟨info.id, traceName setting request, true⟩) := by
  intro done
  have body : (⟨traceName setting request, request.tags.withoutReserved, request.baseSpec⟩ :
      CreateTraceRequest) = creation setting request := rfl
  unfold done create
  rw [body, stamped_createTrace]
  cases answer : (b.createTrace service (creation setting request) w.state).1 with
  | error e => exact ⟨⟨[_], rfl, rfl⟩, .inl ⟨e, rfl, rfl⟩⟩
  | ok info => exact ⟨⟨[_], rfl, rfl⟩, .inr ⟨info, rfl, rfl⟩⟩

theorem served_of_absent (source : EventSource) {rules : ExclusionRules}
    (compiled : ExclusionRules.compile request.hostExclusions request.pathExclusions = .ok rules)
    (found : (serviceFound b setting request r w).1 = .ok service)
    (absent : Absent (traceFound b setting request r w service).1) :
    ∃ calls, Logged w (source.upload b setting request r w).state calls ∧
      Served b setting request r w service (source.upload b setting request r w).result calls := by
  obtain ⟨bad, good⟩ := run_served source compiled found
  rw [target_of_absent absent] at bad good
  obtain ⟨creating, outcome⟩ := create_cases b setting service request setting.now
    (traceFound b setting request r w service).2.1 (traceFound b setting request r w service).2.2
  have before := (traceFound_logged b setting request r w service).trans creating
  -- the rules for a failed search and for a known trace do not apply
  have notError : ∀ e, (traceFound b setting request r w service).1 = some (.error e) →
      e.isNotFound = true := by
    intro e failed
    obtain ⟨kind, name, same⟩ := absent _ failed
    cases same
    rfl
  have notFound : ∀ id, (traceFound b setting request r w service).1 ≠ some (.ok id) := by
    intro id known
    obtain ⟨kind, name, same⟩ := absent _ known
    cases same
  rcases outcome with ⟨e, refused, done⟩ | ⟨info, accepted, done⟩
  · obtain ⟨result, state⟩ := bad _ done
    refine ⟨_, state ▸ before, ?_⟩
    exact {
      failed := fun e' failed lasting => by simp [notError e' failed] at lasting
      refused := fun id known => absurd known (notFound id)
      appended := fun id known => absurd known (notFound id)
      notCreated := fun _ e' failed => by
        rw [refused] at failed
        cases failed
        exact ⟨result, rfl⟩
      created := fun _ info accepted => by
        rw [refused] at accepted
        cases accepted }
  · obtain ⟨wrote, batches, log⟩ := good _ done
    refine ⟨_, before.trans log, ?_⟩
    exact {
      failed := fun e' failed lasting => by simp [notError e' failed] at lasting
      refused := fun id known => absurd known (notFound id)
      appended := fun id known => absurd known (notFound id)
      notCreated := fun _ e' failed => by
        rw [accepted] at failed
        cases failed
      created := fun _ info' same => by
        rw [accepted] at same
        cases same
        exact ⟨wrote, batches, List.append_assoc _ _ _⟩ }

theorem served_of_error (source : EventSource) {rules : ExclusionRules}
    (compiled : ExclusionRules.compile request.hostExclusions request.pathExclusions = .ok rules)
    (found : (serviceFound b setting request r w).1 = .ok service) {e : ResolveError}
    (failed : (traceFound b setting request r w service).1 = some (.error e))
    (lasting : e.isNotFound = false) :
    ∃ calls, Logged w (source.upload b setting request r w).state calls ∧
      Served b setting request r w service (source.upload b setting request r w).result calls := by
  obtain ⟨bad, _⟩ := run_served source compiled found
  rw [target_of_error failed lasting] at bad
  obtain ⟨result, state⟩ := bad _ rfl
  have present : ¬ Absent (traceFound b setting request r w service).1 := by
    intro absent
    obtain ⟨kind, name, same⟩ := absent _ failed
    cases same
    cases lasting
  refine ⟨_, state ▸ traceFound_logged b setting request r w service, ?_⟩
  exact {
    failed := fun e' failed' _ => by
      rw [failed] at failed'
      cases failed'
      exact ⟨result, rfl⟩
    refused := fun id known => by
      rw [failed] at known
      cases known
    appended := fun id known => by
      rw [failed] at known
      cases known
    notCreated := fun absent => absurd absent present
    created := fun absent => absurd absent present }

theorem served_of_known (source : EventSource) {rules : ExclusionRules}
    (compiled : ExclusionRules.compile request.hostExclusions request.pathExclusions = .ok rules)
    (found : (serviceFound b setting request r w).1 = .ok service) {id : TraceId}
    (known : (traceFound b setting request r w service).1 = some (.ok id)) :
    ∃ calls, Logged w (source.upload b setting request r w).state calls ∧
      Served b setting request r w service (source.upload b setting request r w).result calls := by
  obtain ⟨bad, good⟩ := run_served source compiled found
  rw [target_of_found known] at bad good
  have before := traceFound_logged b setting request r w service
  have present : ¬ Absent (traceFound b setting request r w service).1 := by
    intro absent
    obtain ⟨kind, name, same⟩ := absent _ known
    cases same
  have noError : ∀ e, (traceFound b setting request r w service).1 ≠ some (.error e) := by
    intro e failed
    rw [known] at failed
    cases failed
  cases allowed : request.append with
  | false =>
    rw [allowed] at bad
    obtain ⟨result, state⟩ := bad _ rfl
    refine ⟨_, state ▸ before, ?_⟩
    exact {
      failed := fun e failed => absurd failed (noError e)
      refused := fun _ _ _ => ⟨result, rfl⟩
      appended := fun _ _ yes => by
        rw [allowed] at yes
        cases yes
      notCreated := fun absent => absurd absent present
      created := fun absent => absurd absent present }
  | true =>
    rw [allowed] at good
    obtain ⟨wrote, batches, log⟩ := good _ rfl
    refine ⟨_, before.trans log, ?_⟩
    exact {
      failed := fun e failed => absurd failed (noError e)
      refused := fun _ _ no => by
        rw [allowed] at no
        cases no
      appended := fun id' known' _ => by
        rw [known] at known'
        cases known'
        exact ⟨wrote, batches, rfl⟩
      notCreated := fun absent => absurd absent present
      created := fun absent => absurd absent present }

theorem served_of_service (source : EventSource) {rules : ExclusionRules}
    (compiled : ExclusionRules.compile request.hostExclusions request.pathExclusions = .ok rules)
    (found : (serviceFound b setting request r w).1 = .ok service) :
    ∃ calls, Logged w (source.upload b setting request r w).state calls ∧
      Served b setting request r w service (source.upload b setting request r w).result calls := by
  rcases found_cases (traceFound b setting request r w service).1 with
    ⟨e, failed, lasting⟩ | ⟨id, known⟩ | absent
  · exact served_of_error source compiled found failed lasting
  · exact served_of_known source compiled found known
  · exact served_of_absent source compiled found absent

end Rules

/-- An upload follows the rules, for events at hand and for events as they arrive, whatever the
resolver has in memory and whatever the backend answers. -/
theorem upload_decided (b : Backend σ) (setting : UploadSetting) (request : UploadRequest)
    (source : EventSource) (r : Resolver) (w : Stamped σ) :
    let o := source.upload b setting request r w
    ∃ calls, Logged w o.state calls ∧ Decided b setting request r w o.result calls := by
  intro o
  have unfolded : o = run b.stamped setting request (source.feed b) r w := source.upload_eq ..
  rcases request.compile_cases with ⟨valid, rules, compiled⟩ |
    ⟨invalid, field, p, given, fault, bad, refused⟩
  · cases found : (serviceFound b setting request r w).1 with
    | error e =>
      rw [unfolded, run_of_service_error compiled found]
      refine ⟨_, r.service_logged b setting.now request.service w, ?_⟩
      exact {
        invalid := fun no => absurd valid no
        noService := fun _ e' failed => by
          rw [found] at failed
          cases failed
          exact ⟨rfl, rfl⟩
        served := fun _ service known => by
          rw [found] at known
          cases known }
    | ok service =>
      obtain ⟨calls, log, served⟩ := served_of_service source compiled found
      refine ⟨calls, log, ?_⟩
      exact {
        invalid := fun no => absurd valid no
        noService := fun _ e failed => by
          rw [found] at failed
          cases failed
        served := fun _ service' known => by
          rw [found] at known
          cases known
          exact served }
  · rw [unfolded, run_of_compile_error refused]
    refine ⟨[], .refl w, ?_⟩
    exact {
      invalid := fun _ => ⟨⟨field, p, given, fault, bad, rfl⟩, rfl⟩
      noService := fun valid => absurd valid invalid
      served := fun valid => absurd valid invalid }

/-- A trace that exists is found in two calls, and nothing is written to it. -/
example :
    let s : Script := ⟨.ok [⟨⟨.fill 1⟩, "Shop"⟩],
      .ok [⟨⟨.fill 2⟩, ⟨.fill 1⟩, "A", .empty, true, none⟩], [], [], 0, fun _ => .nil⟩
    let request : UploadRequest := ⟨"shop", some "a", false, .empty, none, false, [], []⟩
    let setting : UploadSetting := ⟨.nil, .standard, 0, .nil⟩
    let o := (EventSource.ready []).upload scripted setting request .standard (.start s)
    o.state.calls.map CallRecord.call = [.listServices, .listTraces ⟨.fill 1⟩ .empty] ∧
      o.result.isOk = false := by
  decide +kernel

end Upload

end TrafficTrace
