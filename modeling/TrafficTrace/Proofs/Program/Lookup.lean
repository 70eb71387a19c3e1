import TrafficTrace.Program.Basic
import TrafficTrace.Proofs.Resolve.History
import TrafficTrace.Proofs.Transport.Resubmission

/-!
# Steps of a task that only read

The steps of a task run one after the other over one state. A lookup of a service or of a spec sends
nothing to the service but requests to read, and so does any row of such steps.
-/
namespace TrafficTrace

open Network

namespace Program

variable {σ α β ε : Type}

theorem run_bind (x : Step σ α) (f : α → Step σ β) (s : State σ) :
    (x >>= f).run s = match x.run s with
      | (.ok a, s) => (f a).run s
      | (.error e, s) => (.error e, s) := by
  change (ExceptT.bind x f).run s = _
  rcases done : x.run s with ⟨e | a, s'⟩
  · simp only [ExceptT.bind, ExceptT.run, ExceptT.mk, bind, StateT.bind] at done ⊢
    rw [done]
    rfl
  · simp only [ExceptT.bind, ExceptT.run, ExceptT.mk, bind, StateT.bind] at done ⊢
    rw [done]
    rfl

theorem run_get (s : State σ) : (get : Step σ (State σ)).run s = (.ok s, s) := rfl

theorem run_set (s s' : State σ) : (set s' : Step σ PUnit).run s = (.ok ⟨⟩, s') := rfl

end Program

/-- Between two logs of a network, nothing was sent but requests to read. -/
def Network.OnlyReads (before after : List Effect) : Prop :=
  ∃ sent, after = before ++ sent ∧ ∀ q ∈ requests sent, q.method = .get

namespace Network.OnlyReads

variable {l l' l'' : List Effect}

theorem refl (l : List Effect) : OnlyReads l l :=
  ⟨[], (List.append_nil l).symm, fun _ none => absurd none List.not_mem_nil⟩

theorem trans (h : OnlyReads l l') (h' : OnlyReads l' l'') : OnlyReads l l'' := by
  obtain ⟨sent, rfl, reads⟩ := h
  obtain ⟨more, rfl, reads'⟩ := h'
  refine ⟨sent ++ more, List.append_assoc _ _ _, ?_⟩
  rw [requests_append]
  exact List.forall_mem_append.mpr ⟨reads, reads'⟩

end Network.OnlyReads

namespace ServiceCall

/-- A call whose request, if there is one, reads. -/
def Reads (c : ServiceCall) : Prop := ∀ r, c.request? = some r → r.method = .get

theorem reads_listServices : listServices.Reads := by
  rintro _ ⟨⟩
  rfl

theorem reads_resolveName (service : ServiceId) (kind : ResourceKind) (name : String) :
    (resolveName service kind name).Reads := by
  rintro _ ⟨⟩
  rfl

theorem reads_getSpec (service : ServiceId) (spec : SpecId) : (getSpec service spec).Reads := by
  rintro _ ⟨⟩
  rfl

theorem reads_getSpecByVersion (service : ServiceId) (label : String) :
    (getSpecByVersion service label).Reads := by
  rintro _ ⟨⟩
  rfl

/-- To create a trace and to append to one is not to read. -/
theorem method_of_create {service : ServiceId} {request : CreateTraceRequest} {r : ApiRequest}
    (h : (createTrace service request).request? = some r) : r.method = .post := by
  obtain rfl := Option.some.inj h
  rfl

theorem method_of_append {service : ServiceId} {trace : TraceId} {batch : EventBatch}
    {r : ApiRequest} (h : (appendEvents service trace batch).request? = some r) :
    r.method = .post := by
  obtain rfl := Option.some.inj h
  rfl

end ServiceCall

namespace Transport

variable {ρ σ : Type}

theorem onlyReads_call (t : Transport ρ) (n : Network σ) {c : ServiceCall} (reads : c.Reads)
    (s : Observed ρ (σ × List Effect)) :
    OnlyReads s.state.2 (t.call n.logged c s).2.state.2 := by
  rw [call]
  cases asked : c.request? with
  | none => exact .refl _
  | some r =>
    obtain ⟨sent, log, attempted⟩ := attempted_send t n ⟨r, c.answer⟩ s
    refine ⟨sent, log, ?_⟩
    intro q hq
    exact (prepared?_eq_some (attempted.prepared q hq)).1.trans (reads r asked)

theorem onlyReads_resolveName (t : Transport ρ) (n : Network σ) (service : ServiceId)
    (kind : ResourceKind) (name : String) (s : Observed ρ (σ × List Effect)) :
    OnlyReads s.state.2 (t.resolveName n.logged service kind name s).2.state.2 :=
  t.onlyReads_call n (ServiceCall.reads_resolveName service kind name) s

/-- A service is looked up in the memory of the resolver, or in a listing. -/
theorem onlyReads_service (t : Transport ρ) (n : Network σ) (now : Instant) (name : String)
    (r : Resolver) (s : Observed ρ (σ × List Effect)) :
    OnlyReads s.state.2 (r.service (t.backend n.logged) now name s).2.2.state.2 := by
  have listed : OnlyReads s.state.2 ((t.backend n.logged).listServices s).2.state.2 :=
    t.onlyReads_call n ServiceCall.reads_listServices s
  rcases r.service_cases (t.backend n.logged) now name s with
    ⟨_, _, done⟩ | ⟨_, _, _, done⟩ | ⟨_, _, _, done⟩
  · rw [done]
    exact .refl _
  · rw [done]
    exact listed
  · rw [done]
    exact listed

end Transport

namespace Program

variable {σ α β ε : Type}

/-- The step sends nothing but requests to read, whether it fails or not. -/
def OnlyReads (x : Step (σ × List Effect) α) : Prop :=
  ∀ s, Network.OnlyReads s.observed.state.2 (x.run s).2.observed.state.2

theorem onlyReads_pure (a : α) : OnlyReads (pure a : Step (σ × List Effect) α) :=
  fun s => .refl s.observed.state.2

theorem onlyReads_throw (e : Report) : OnlyReads (throw e : Step (σ × List Effect) α) :=
  fun s => .refl s.observed.state.2

theorem onlyReads_orReport (f : ε → Report) (r : Except ε α) :
    OnlyReads (orReport f r : Step (σ × List Effect) α) := by
  cases r with
  | ok a => exact onlyReads_pure a
  | error e => exact onlyReads_throw (f e)

theorem OnlyReads.bind {x : Step (σ × List Effect) α} {f : α → Step (σ × List Effect) β}
    (h : OnlyReads x) (rest : ∀ a, OnlyReads (f a)) : OnlyReads (x >>= f) := by
  intro s
  have first := h s
  rw [run_bind]
  rcases done : x.run s with ⟨e | a, s'⟩
  · rw [done] at first
    exact first
  · rw [done] at first
    exact first.trans (rest a s')

theorem onlyReads_exchange
    {f : Observed Unit (σ × List Effect) → α × Observed Unit (σ × List Effect)}
    (h : ∀ s, Network.OnlyReads s.state.2 (f s).2.state.2) : OnlyReads (exchange f) :=
  fun s => h s.observed

variable (settings : Settings) (t : Transport Unit) (n : Network σ)

theorem onlyReads_ask {c : ServiceCall} (reads : c.Reads) :
    OnlyReads (ask ⟨settings, t, n.logged⟩ c) :=
  (onlyReads_exchange fun s => t.onlyReads_call n reads s).bind fun r => onlyReads_orReport _ r

theorem onlyReads_serviceId (name : String) :
    OnlyReads (serviceId ⟨settings, t, n.logged⟩ name) := by
  intro s
  have looked := t.onlyReads_service n (n.now s.observed.state.1) name s.resolver s.observed
  rw [serviceId, lookup, run_bind, run_get]
  dsimp only
  rw [run_bind, run_set]
  exact looked.trans (onlyReads_orReport _ _ _)

theorem onlyReads_findSpec (service : ServiceId) (name : String) :
    OnlyReads (findSpec ⟨settings, t, n.logged⟩ service name) := by
  rw [findSpec]
  refine (onlyReads_exchange fun s => t.onlyReads_resolveName n service .spec name s).bind ?_
  intro found
  refine (onlyReads_orReport _ found).bind ?_
  rintro (_ | trace | spec)
  · have reads := ServiceCall.reads_getSpecByVersion service name
    exact (onlyReads_exchange fun s => t.onlyReads_call n reads s).bind fun r =>
      onlyReads_orReport _ r
  · exact onlyReads_throw _
  · exact onlyReads_ask settings t n (ServiceCall.reads_getSpec service spec)

end Program

end TrafficTrace
