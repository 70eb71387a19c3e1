import TrafficTrace.Backend.Script
import TrafficTrace.Resolve.Resolver
import TrafficTrace.Proofs.Resolve.CacheHistory

/-!
# A resolver and its history

A resolver is used for a while: names are looked up, traces are remembered, everything is forgotten,
time passes, and the backend answers as it likes. What was asked of the backend and what it answered
is written down. This record alone dictates the next answer: the last write of the key while it is
young, and else what one listing call says.
-/
namespace TrafficTrace

namespace Backend

/-- A call and its answer. -/
inductive AnsweredCall where
  | services (answer : Except TransportError (List ServiceSummary))
  | traces (service : ServiceId) (tags : TagSet) (answer : Except TransportError (List TraceInfo))
  | created (service : ServiceId) (request : CreateTraceRequest)
    (answer : Except TransportError TraceInfo)
  | appended (service : ServiceId) (trace : TraceId) (batch : EventBatch)
    (answer : Except TransportError AppendResponse)

variable {σ : Type}

/-- The same backend with a transcript, the latest exchange first. -/
def transcribed (b : Backend σ) : Backend (σ × List AnsweredCall) where
  listServices s :=
    let (answer, state) := b.listServices s.1
    (answer, state, .services answer :: s.2)
  listTraces service tags s :=
    let (answer, state) := b.listTraces service tags s.1
    (answer, state, .traces service tags answer :: s.2)
  createTrace service request s :=
    let (answer, state) := b.createTrace service request s.1
    (answer, state, .created service request answer :: s.2)
  appendEvents service trace batch s :=
    let (answer, state) := b.appendEvents service trace batch s.1
    (answer, state, .appended service trace batch answer :: s.2)

end Backend

namespace Resolver

open Backend

variable {σ : Type} {k : IdKind}

/-! ### One lookup -/

/-- The last entry of a listing whose name is written like the key and whose identifier names
something. -/
def lastListed (key : String) (items : List (String × Id k)) : Option (Id k) :=
  (items.filter fun i => normalize i.1 = key && !i.2.isNil).getLast?.map Prod.snd

def lastListedService (key : String) (services : List ServiceSummary) : Option ServiceId :=
  lastListed key (services.map fun s => (s.name, s.id))

def lastListedTrace (key : String) (traces : List TraceInfo) : Option TraceId :=
  lastListed key (traces.map fun t => (t.name, t.id))

def answer (kind : NameKind) (name : String) : Option (Id k) → Except ResolveError (Id k)
  | some id => .ok id
  | none => .error (.notFound kind name)

/-- The entries of a listing, each under the service that was asked for. -/
def within (service : ServiceId) (items : List (String × TraceId)) :
    List ((ServiceId × String) × TraceId) :=
  items.map fun i => ((service, i.1), i.2)

theorem lastUnder_listed (key : String) (items : List (String × Id k)) :
    Cache.lastUnder (listed items) key = lastListed key items := by
  rw [Cache.lastUnder_eq, listed, List.filter_map, List.filter_filter, List.getLast?_map,
    Option.map_map]
  simp only [Function.comp_def, lastListed]

theorem lastUnder_within (service other : ServiceId) (key : String)
    (items : List (String × TraceId)) :
    Cache.lastUnder (within service items) (other, key) =
      if service = other then Cache.lastUnder items key else none := by
  induction items with
  | nil => simp [within]
  | cons i rest ih =>
    rw [within, List.map_cons, Cache.lastUnder_cons, Cache.lastUnder_cons, ← within, ih]
    by_cases same : service = other
    · subst same
      simp
    · have apart : ¬ other = service := fun eq => same eq.symm
      simp [same, apart]

/-- All that the lookup of a service can do: it hits, or one listing call decides. -/
theorem service_cases (b : Backend σ) (now : Instant) (name : String) (r : Resolver) (s : σ) :
    (∃ id, r.services.get? now (normalize name) = some id ∧
      r.service b now name s = (.ok id, r, s)) ∨
    (r.services.get? now (normalize name) = none ∧ ∃ e, (b.listServices s).1 = .error e ∧
      r.service b now name s = (.error (.backend .service name e), r, (b.listServices s).2)) ∨
    (r.services.get? now (normalize name) = none ∧ ∃ l, (b.listServices s).1 = .ok l ∧
      r.service b now name s =
        (answer .service name (lastListedService (normalize name) l),
          { r with services := r.services.populate now (listedServices l) },
          (b.listServices s).2)) := by
  unfold Resolver.service
  cases held : r.services.get? now (normalize name) with
  | some id => exact .inl ⟨id, rfl, by simp only [held]⟩
  | none =>
    rcases asked : b.listServices s with ⟨e | l, s'⟩
    · exact .inr (.inl ⟨rfl, e, rfl, by simp only [held]⟩)
    · refine .inr (.inr ⟨rfl, l, rfl, ?_⟩)
      have same : lastNamed (normalize name) (listedServices l) =
          lastListedService (normalize name) l := lastUnder_listed _ _
      simp only [held, same]
      cases lastListedService (normalize name) l <;> rfl

/-- The same of a trace, in the listing of its service. -/
theorem trace_cases (b : Backend σ) (now : Instant) (service : ServiceId) (name : String)
    (r : Resolver) (s : σ) :
    (∃ id, r.traces.get? now (service, normalize name) = some id ∧
      r.trace b now service name s = (.ok id, r, s)) ∨
    (r.traces.get? now (service, normalize name) = none ∧
      ∃ e, (b.listTraces service .empty s).1 = .error e ∧
        r.trace b now service name s =
          (.error (.backend .trace name e), r, (b.listTraces service .empty s).2)) ∨
    (r.traces.get? now (service, normalize name) = none ∧
      ∃ l, (b.listTraces service .empty s).1 = .ok l ∧
        r.trace b now service name s =
          (answer .trace name (lastListedTrace (normalize name) l),
            { r with traces := r.traces.populate now (within service (listedTraces l)) },
            (b.listTraces service .empty s).2)) := by
  unfold Resolver.trace
  cases held : r.traces.get? now (service, normalize name) with
  | some id => exact .inl ⟨id, rfl, by simp only [held]⟩
  | none =>
    rcases asked : b.listTraces service .empty s with ⟨e | l, s'⟩
    · exact .inr (.inl ⟨rfl, e, rfl, by simp only [held]⟩)
    · refine .inr (.inr ⟨rfl, l, rfl, ?_⟩)
      have same : lastNamed (normalize name) (listedTraces l) =
          lastListedTrace (normalize name) l := lastUnder_listed _ _
      simp only [held, same]
      cases lastListedTrace (normalize name) l <;> rfl

/-! ### Many of them -/

inductive Request where
  | service (name : String)
  | trace (service : ServiceId) (name : String)
  | remember (service : ServiceId) (name : String) (id : TraceId)
  | clear
deriving DecidableEq

/-- A request with its time and what the backend was asked for it, the latest exchange first. -/
structure Turn where
  time : Instant
  request : Request
  exchanges : List AnsweredCall

/-- A resolver in use. The latest turn stands first. -/
structure Session (σ : Type) where
  resolver : Resolver
  now : Instant
  state : σ
  turns : List Turn

def Turn.serviceWrite? (key : String) (t : Turn) : Option ServiceId :=
  t.exchanges.findSome? fun
    | .services (.ok services) => lastListedService key services
    | _ => none

def Turn.traceWrite? (key : ServiceId × String) (t : Turn) : Option TraceId :=
  match t.request with
  | .remember service name id =>
    if (service, normalize name) = key ∧ id.isNil = false then some id else none
  | _ => t.exchanges.findSome? fun
    | .traces service _ (.ok traces) =>
      if service = key.1 then lastListedTrace key.2 traces else none
    | _ => none

/-- The last write and its time, if nothing was cleared after it. -/
def lastWrite {α : Type} (write? : Turn → Option α) : List Turn → Option (Instant × α)
  | [] => none
  | t :: earlier =>
    if t.request = .clear then none
    else ((write? t).map (t.time, ·)).or (lastWrite write? earlier)

namespace Session

def start (fresh hard : Duration) (s : σ) : Session σ := ⟨.empty fresh hard, 0, s, []⟩

def wait (x : Session σ) (nanos : Nat) : Session σ := { x with now := x.now + nanos }

def lastServiceWrite (x : Session σ) (key : String) : Option (Instant × ServiceId) :=
  lastWrite (Turn.serviceWrite? key) x.turns

def lastTraceWrite (x : Session σ) (key : ServiceId × String) : Option (Instant × TraceId) :=
  lastWrite (Turn.traceWrite? key) x.turns

/-- The session after a turn. -/
def took (x : Session σ) (request : Request) (r : Resolver) (s : σ × List AnsweredCall) :
    Session σ :=
  ⟨r, x.now, s.1, ⟨x.now, request, s.2⟩ :: x.turns⟩

def service (b : Backend σ) (x : Session σ) (name : String) :
    Except ResolveError ServiceId × Session σ :=
  let (reply, r, s) := x.resolver.service b.transcribed x.now name (x.state, [])
  (reply, x.took (.service name) r s)

def trace (b : Backend σ) (x : Session σ) (service : ServiceId) (name : String) :
    Except ResolveError TraceId × Session σ :=
  let (reply, r, s) := x.resolver.trace b.transcribed x.now service name (x.state, [])
  (reply, x.took (.trace service name) r s)

def step (b : Backend σ) (x : Session σ) : Request → Session σ
  | .service name => (x.service b name).2
  | .trace service name => (x.trace b service name).2
  | .remember service name id =>
    x.took (.remember service name id) (x.resolver.remember x.now service name id) (x.state, [])
  | .clear => x.took .clear x.resolver.clear (x.state, [])

/-- Every request is made after some time. -/
def run (b : Backend σ) (x : Session σ) : List (Nat × Request) → Session σ
  | [] => x
  | (nanos, request) :: rest => run b ((x.wait nanos).step b request) rest

theorem lastServiceWrite_took (x : Session σ) {request : Request} (kept : request ≠ .clear)
    (r : Resolver) (s : σ × List AnsweredCall) :
    (x.took request r s).lastServiceWrite = fun key =>
      ((Turn.serviceWrite? key ⟨x.now, request, s.2⟩).map (x.now, ·)).or
        (x.lastServiceWrite key) := by
  funext key
  exact if_neg kept

theorem lastTraceWrite_took (x : Session σ) {request : Request} (kept : request ≠ .clear)
    (r : Resolver) (s : σ × List AnsweredCall) :
    (x.took request r s).lastTraceWrite = fun key =>
      ((Turn.traceWrite? key ⟨x.now, request, s.2⟩).map (x.now, ·)).or
        (x.lastTraceWrite key) := by
  funext key
  exact if_neg kept

theorem service_cases (b : Backend σ) (x : Session σ) (name : String) :
    (∃ id, x.resolver.services.get? x.now (normalize name) = some id ∧
      x.service b name = (.ok id, x.took (.service name) x.resolver (x.state, []))) ∨
    (x.resolver.services.get? x.now (normalize name) = none ∧
      ∃ e, (b.listServices x.state).1 = .error e ∧
        x.service b name = (.error (.backend .service name e),
          x.took (.service name) x.resolver
            ((b.listServices x.state).2, [.services (.error e)]))) ∨
    (x.resolver.services.get? x.now (normalize name) = none ∧
      ∃ l, (b.listServices x.state).1 = .ok l ∧
        x.service b name = (answer .service name (lastListedService (normalize name) l),
          x.took (.service name)
            { x.resolver with
              services := x.resolver.services.populate x.now (listedServices l) }
            ((b.listServices x.state).2, [.services (.ok l)]))) := by
  rw [Session.service]
  rcases x.resolver.service_cases b.transcribed x.now name (x.state, []) with
    ⟨id, hit, done⟩ | ⟨miss, e, failed, done⟩ | ⟨miss, l, listing, done⟩
  · exact .inl ⟨id, hit, by rw [done]⟩
  · have failed : (b.listServices x.state).1 = .error e := failed
    refine .inr (.inl ⟨miss, e, failed, ?_⟩)
    rw [done, ← failed]
    rfl
  · have listing : (b.listServices x.state).1 = .ok l := listing
    refine .inr (.inr ⟨miss, l, listing, ?_⟩)
    rw [done, ← listing]
    rfl

theorem trace_cases (b : Backend σ) (x : Session σ) (service : ServiceId) (name : String) :
    (∃ id, x.resolver.traces.get? x.now (service, normalize name) = some id ∧
      x.trace b service name =
        (.ok id, x.took (.trace service name) x.resolver (x.state, []))) ∨
    (x.resolver.traces.get? x.now (service, normalize name) = none ∧
      ∃ e, (b.listTraces service .empty x.state).1 = .error e ∧
        x.trace b service name = (.error (.backend .trace name e),
          x.took (.trace service name) x.resolver
            ((b.listTraces service .empty x.state).2, [.traces service .empty (.error e)]))) ∨
    (x.resolver.traces.get? x.now (service, normalize name) = none ∧
      ∃ l, (b.listTraces service .empty x.state).1 = .ok l ∧
        x.trace b service name = (answer .trace name (lastListedTrace (normalize name) l),
          x.took (.trace service name)
            { x.resolver with
              traces := x.resolver.traces.populate x.now (within service (listedTraces l)) }
            ((b.listTraces service .empty x.state).2, [.traces service .empty (.ok l)]))) := by
  rw [Session.trace]
  rcases x.resolver.trace_cases b.transcribed x.now service name (x.state, []) with
    ⟨id, hit, done⟩ | ⟨miss, e, failed, done⟩ | ⟨miss, l, listing, done⟩
  · exact .inl ⟨id, hit, by rw [done]⟩
  · have failed : (b.listTraces service .empty x.state).1 = .error e := failed
    refine .inr (.inl ⟨miss, e, failed, ?_⟩)
    rw [done, ← failed]
    rfl
  · have listing : (b.listTraces service .empty x.state).1 = .ok l := listing
    refine .inr (.inr ⟨miss, l, listing, ?_⟩)
    rw [done, ← listing]
    rfl

/-- The caches hold what the turns say. -/
structure Faithful (fresh : Duration) (x : Session σ) : Prop where
  services : x.resolver.services.Reflects fresh x.now x.lastServiceWrite
  traces : x.resolver.traces.Reflects fresh x.now x.lastTraceWrite

theorem faithful_start (fresh hard : Duration) (s : σ) : Faithful fresh (start fresh hard s) where
  services := Cache.reflects_empty fresh hard 0
  traces := Cache.reflects_empty fresh hard 0

namespace Faithful

variable {fresh : Duration} {x : Session σ}

theorem wait (h : Faithful fresh x) (nanos : Nat) : Faithful fresh (x.wait nanos) where
  services := h.services.wait (Nat.le_add_right _ _)
  traces := h.traces.wait (Nat.le_add_right _ _)

/-- A turn that wrote nothing and left the resolver alone. -/
theorem idle (h : Faithful fresh x) {request : Request} (kept : request ≠ .clear)
    (s : σ × List AnsweredCall)
    (noService : ∀ key, Turn.serviceWrite? key ⟨x.now, request, s.2⟩ = none)
    (noTrace : ∀ key, Turn.traceWrite? key ⟨x.now, request, s.2⟩ = none) :
    Faithful fresh (x.took request x.resolver s) where
  services := by
    rw [lastServiceWrite_took x kept]
    simp only [noService]
    exact h.services
  traces := by
    rw [lastTraceWrite_took x kept]
    simp only [noTrace]
    exact h.traces

theorem service (h : Faithful fresh x) (b : Backend σ) (name : String) :
    Faithful fresh (x.service b name).2 := by
  have kept : Request.service name ≠ .clear := by simp
  rcases x.service_cases b name with ⟨id, _, done⟩ | ⟨_, e, _, done⟩ | ⟨_, l, _, done⟩
  · rw [done]
    exact h.idle kept _ (fun _ => rfl) fun _ => rfl
  · rw [done]
    exact h.idle kept _ (fun _ => rfl) fun _ => rfl
  · rw [done]
    constructor
    · rw [lastServiceWrite_took x kept]
      refine Eq.mp (congrArg _ (funext fun key => ?_)) (h.services.populate (listedServices l))
      have wrote : Cache.lastUnder (listedServices l) key = lastListedService key l :=
        lastUnder_listed _ _
      simp [Turn.serviceWrite?, wrote]
    · rw [lastTraceWrite_took x kept]
      exact h.traces

theorem trace (h : Faithful fresh x) (b : Backend σ) (service : ServiceId) (name : String) :
    Faithful fresh (x.trace b service name).2 := by
  have kept : Request.trace service name ≠ .clear := by simp
  rcases x.trace_cases b service name with ⟨id, _, done⟩ | ⟨_, e, _, done⟩ | ⟨_, l, _, done⟩
  · rw [done]
    exact h.idle kept _ (fun _ => rfl) fun _ => rfl
  · rw [done]
    exact h.idle kept _ (fun _ => rfl) fun _ => rfl
  · rw [done]
    constructor
    · rw [lastServiceWrite_took x kept]
      exact h.services
    · rw [lastTraceWrite_took x kept]
      refine Eq.mp (congrArg _ (funext fun key => ?_))
        (h.traces.populate (within service (listedTraces l)))
      obtain ⟨other, key⟩ := key
      have wrote : Cache.lastUnder (listedTraces l) key = lastListedTrace key l :=
        lastUnder_listed _ _
      rw [lastUnder_within, wrote]
      simp [Turn.traceWrite?]

theorem remember (h : Faithful fresh x) (service : ServiceId) (name : String) (id : TraceId) :
    Faithful fresh (x.took (.remember service name id)
      (x.resolver.remember x.now service name id) (x.state, [])) := by
  have kept : Request.remember service name id ≠ .clear := by simp
  rw [Resolver.remember]
  cases void : id.isNil with
  | true =>
    exact h.idle kept _ (fun _ => rfl) fun key => by simp [Turn.traceWrite?, void]
  | false =>
    constructor
    · rw [lastServiceWrite_took x kept]
      exact h.services
    · rw [lastTraceWrite_took x kept]
      refine Eq.mp (congrArg _ (funext fun key => ?_))
        (h.traces.put (service, normalize name) id)
      by_cases same : (service, normalize name) = key
      · simp [Turn.traceWrite?, void, same]
      · have apart : ¬ key = (service, normalize name) := fun eq => same eq.symm
        simp [Turn.traceWrite?, same, apart]

theorem clear (h : Faithful fresh x) :
    Faithful fresh (x.took .clear x.resolver.clear (x.state, [])) where
  services := h.services.clear
  traces := h.traces.clear

theorem step (h : Faithful fresh x) (b : Backend σ) (request : Request) :
    Faithful fresh (x.step b request) := by
  cases request with
  | service name => exact h.service b name
  | trace service name => exact h.trace b service name
  | remember service name id => exact h.remember service name id
  | clear => exact h.clear

theorem run (h : Faithful fresh x) (b : Backend σ) (requests : List (Nat × Request)) :
    Faithful fresh (x.run b requests) := by
  induction requests generalizing x with
  | nil => exact h
  | cons q rest ih => exact ih ((h.wait q.1).step b q.2)

end Faithful

/-- A lookup that does what its history says. `last` is the last write of its key, `call` the one
call that it may make, and `listing` what that call finds under the key. -/
structure Dictated (fresh : Duration) (x : Session σ) (request : Request) (kind : NameKind)
    (name : String) (last : Option (Instant × Id k)) (call : AnsweredCall)
    (listing : Except TransportError (Option (Id k)))
    (done : Except ResolveError (Id k) × Session σ) : Prop where
  remembered : ∀ t id, last = some (t, id) → x.now - t < fresh.nanos →
    done = (.ok id, x.took request x.resolver (x.state, []))
  asked : (∀ t id, last = some (t, id) → fresh.nanos ≤ x.now - t) →
    done.2.turns = ⟨x.now, request, [call]⟩ :: x.turns ∧
    (∀ e, listing = .error e →
      done.1 = .error (.backend kind name e) ∧ done.2.resolver = x.resolver) ∧
    ∀ found, listing = .ok found → done.1 = answer kind name found

theorem Dictated.of_hit {fresh : Duration} {x : Session σ} {last : Option (Instant × Id k)}
    {t : Instant} {id : Id k} (write : last = some (t, id)) (young : x.now - t < fresh.nanos)
    (request : Request) (kind : NameKind) (name : String) (call : AnsweredCall)
    (listing : Except TransportError (Option (Id k))) :
    Dictated fresh x request kind name last call listing
      (.ok id, x.took request x.resolver (x.state, [])) where
  remembered t' id' write' _ := by
    rw [write] at write'
    cases write'
    rfl
  asked old := absurd young (Nat.not_lt.mpr (old t id write))

theorem Dictated.of_miss {fresh : Duration} {x : Session σ} {request : Request}
    {kind : NameKind} {name : String} {last : Option (Instant × Id k)} {call : AnsweredCall}
    {listing : Except TransportError (Option (Id k))}
    {done : Except ResolveError (Id k) × Session σ}
    (old : ∀ t id, last = some (t, id) → fresh.nanos ≤ x.now - t)
    (turns : done.2.turns = ⟨x.now, request, [call]⟩ :: x.turns)
    (failed : ∀ e, listing = .error e →
      done.1 = .error (.backend kind name e) ∧ done.2.resolver = x.resolver)
    (answered : ∀ found, listing = .ok found → done.1 = answer kind name found) :
    Dictated fresh x request kind name last call listing done where
  remembered t id write young := absurd young (Nat.not_lt.mpr (old t id write))
  asked _ := ⟨turns, failed, answered⟩

theorem Faithful.service_dictated {fresh : Duration} {x : Session σ} (h : Faithful fresh x)
    (b : Backend σ) (name : String) :
    Dictated fresh x (.service name) .service name (x.lastServiceWrite (normalize name))
      (.services (b.listServices x.state).1)
      ((b.listServices x.state).1.map (lastListedService (normalize name)))
      (x.service b name) := by
  rcases x.service_cases b name with ⟨id, hit, done⟩ | ⟨miss, e, failed, done⟩ |
    ⟨miss, l, listing, done⟩
  · obtain ⟨t, write, young⟩ := h.services.young_of_hit hit
    rw [done]
    exact .of_hit write young _ _ _ _ _
  · rw [done, failed]
    refine .of_miss (fun _ _ => h.services.old_of_miss miss) rfl ?_ nofun
    rintro _ ⟨⟩
    exact ⟨rfl, rfl⟩
  · rw [done, listing]
    refine .of_miss (fun _ _ => h.services.old_of_miss miss) rfl nofun ?_
    rintro _ ⟨⟩
    rfl

theorem Faithful.trace_dictated {fresh : Duration} {x : Session σ} (h : Faithful fresh x)
    (b : Backend σ) (service : ServiceId) (name : String) :
    Dictated fresh x (.trace service name) .trace name
      (x.lastTraceWrite (service, normalize name))
      (.traces service .empty (b.listTraces service .empty x.state).1)
      ((b.listTraces service .empty x.state).1.map (lastListedTrace (normalize name)))
      (x.trace b service name) := by
  rcases x.trace_cases b service name with ⟨id, hit, done⟩ | ⟨miss, e, failed, done⟩ |
    ⟨miss, l, listing, done⟩
  · obtain ⟨t, write, young⟩ := h.traces.young_of_hit hit
    rw [done]
    exact .of_hit write young _ _ _ _ _
  · rw [done, failed]
    refine .of_miss (fun _ _ => h.traces.old_of_miss miss) rfl ?_ nofun
    rintro _ ⟨⟩
    exact ⟨rfl, rfl⟩
  · rw [done, listing]
    refine .of_miss (fun _ _ => h.traces.old_of_miss miss) rfl nofun ?_
    rintro _ ⟨⟩
    rfl

/-- After any use, with any waits, of a resolver that started empty, every lookup does what the
history says. -/
theorem lookups_follow_history (b : Backend σ) (fresh hard : Duration) (s : σ)
    (requests : List (Nat × Request)) (nanos : Nat) :
    let x := ((start fresh hard s).run b requests).wait nanos
    (∀ name,
      let listing := (b.listServices x.state).1
      Dictated fresh x (.service name) .service name (x.lastServiceWrite (normalize name))
        (.services listing) (listing.map (lastListedService (normalize name)))
        (x.service b name)) ∧
    ∀ service name,
      let listing := (b.listTraces service .empty x.state).1
      Dictated fresh x (.trace service name) .trace name
        (x.lastTraceWrite (service, normalize name))
        (.traces service .empty listing) (listing.map (lastListedTrace (normalize name)))
        (x.trace b service name) := by
  intro x
  have faithful : Faithful fresh x := ((faithful_start fresh hard s).run b requests).wait nanos
  exact ⟨faithful.service_dictated b, faithful.trace_dictated b⟩

/-- A name is asked for again when it is old, an unknown one every time. -/
example :
    let s : Script :=
      ⟨.ok [⟨⟨.fill 1⟩, " Shop"⟩, ⟨⟨.fill 2⟩, "shop"⟩], .ok [], [], [], 0, fun _ => .nil⟩
    let x := (start (.ofNanos 30) (.ofNanos 300) s).run scripted
      [(0, .service "SHOP"), (29, .service "shop "), (1, .service "shop"), (0, .service "x"),
        (0, .service "x"), (0, .clear), (0, .service "shop")]
    x.turns.reverse.map (·.exchanges.length) = [1, 0, 1, 1, 1, 0, 1] ∧
      x.lastServiceWrite "shop" = some (30, ⟨.fill 2⟩) := by
  decide +kernel

end Session

end Resolver

end TrafficTrace
