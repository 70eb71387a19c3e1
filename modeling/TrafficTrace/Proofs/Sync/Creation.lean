import Mathlib.Data.List.Nodup
import TrafficTrace.Backend.Script
import TrafficTrace.Proofs.Collector.Requests
import TrafficTrace.Proofs.Sync.Uploader

/-!
# A trace is created once

A backend that lists every trace it has created is not made to create one twice. An upload creates a
trace after a listing that lacks its name, and this listing was made in the same upload: what the
resolver has in memory can only keep it from creating. So no assumption is needed on the memory, on
the clock or on the calls that fail, and a creation may well be applied and answered with an error.
-/
namespace TrafficTrace

variable {σ : Type}

namespace Backend

/-- A trace by its service and its name, as names are compared. -/
def placeOf (t : ServiceId × String) : ServiceId × String := (t.1, Resolver.normalize t.2)

/-- `made` is what a backend has created, the latest last. A creation is applied or not, whatever
is answered, and every listing of a service shows all that was created in it. -/
structure ListsCreated (b : Backend σ) (made : σ → List (ServiceId × String)) : Prop where
  listServices : ∀ s, made (b.listServices s).2 = made s
  listTraces : ∀ service tags s, made (b.listTraces service tags s).2 = made s
  appendEvents : b.AppendsKeep made
  createTrace : ∀ service request s,
    made (b.createTrace service request s).2 = made s ++ [(service, request.name)] ∨
      made (b.createTrace service request s).2 = made s
  listed : ∀ service s l, (b.listTraces service .empty s).1 = .ok l →
    ∀ name, (service, name) ∈ made s → ∃ t ∈ l, t.name = name ∧ t.id.isNil = false

variable {b : Backend σ} {made : σ → List (ServiceId × String)}

theorem ListsCreated.stamped (lists : b.ListsCreated made) :
    b.stamped.ListsCreated fun w : Stamped σ => made w.state where
  listServices w := lists.listServices w.state
  listTraces service tags w := lists.listTraces service tags w.state
  appendEvents service trace batch w := lists.appendEvents service trace batch w.state
  createTrace service request w := lists.createTrace service request w.state
  listed service w := lists.listed service w.state

/-- The entries of a listing for what was created in a service. -/
def entries (service : ServiceId) (made : List (ServiceId × String)) : List TraceInfo :=
  (made.filter fun t => t.1 = service).map fun t =>
    ⟨⟨.fill 1⟩, service, t.2, .empty, true, none⟩

theorem exists_mem_entries {service : ServiceId} {name : String}
    {made : List (ServiceId × String)} (h : (service, name) ∈ made) :
    ∃ t ∈ entries service made, t.name = name ∧ t.id.isNil = false := by
  have kept : (service, name) ∈ made.filter fun t => t.1 = service :=
    List.mem_filter.mpr ⟨h, decide_eq_true rfl⟩
  have real : (⟨.fill 1⟩ : TraceId).isNil = false := by decide
  exact ⟨_, List.mem_map_of_mem kept, rfl, real⟩

/-- A catalogue behind the answers of any backend. A creation that is answered without an error is
applied; `applies` tells which of the others are. -/
def cataloguing (b : Backend σ) (applies : σ → Bool) :
    Backend (σ × List (ServiceId × String)) where
  listServices s := ((b.listServices s.1).1, (b.listServices s.1).2, s.2)
  listTraces service tags s :=
    ((b.listTraces service tags s.1).1.map (· ++ entries service s.2),
      (b.listTraces service tags s.1).2, s.2)
  createTrace service request s :=
    let (answer, t) := b.createTrace service request s.1
    let applied := (Stamped.faultOf answer).isNone || applies s.1
    (answer, t, if applied then s.2 ++ [(service, request.name)] else s.2)
  appendEvents service trace batch s :=
    ((b.appendEvents service trace batch s.1).1, (b.appendEvents service trace batch s.1).2, s.2)

theorem cataloguing_listsCreated (b : Backend σ) (applies : σ → Bool) :
    (b.cataloguing applies).ListsCreated Prod.snd where
  listServices _ := rfl
  listTraces _ _ _ := rfl
  appendEvents _ _ _ _ := rfl
  createTrace service request s := by
    by_cases applied : ((Stamped.faultOf (b.createTrace service request s.1).1).isNone ||
        applies s.1) = true
    · exact .inl (if_pos applied)
    · exact .inr (if_neg applied)
  listed service s l answered name there := by
    have answered : (b.listTraces service .empty s.1).1.map (· ++ entries service s.2) = .ok l :=
      answered
    cases listing : (b.listTraces service .empty s.1).1 with
    | error e =>
      rw [listing] at answered
      cases answered
    | ok base =>
      rw [listing] at answered
      cases answered
      obtain ⟨t, shown, sameName, real⟩ := exists_mem_entries there
      exact ⟨t, List.mem_append_right _ shown, sameName, real⟩

end Backend

open Backend

variable {b : Backend σ} {made : σ → List (ServiceId × String)}

/-- A listing in which a name was not found does not show it, so nothing was created there. -/
theorem Resolver.not_made_of_notFound (lists : b.ListsCreated made) {now : Instant}
    {service : ServiceId} {name : String} {r : Resolver} {s : σ} {kind : NameKind} {n : String}
    (missing : (r.trace b now service name s).1 = .error (.notFound kind n)) :
    placeOf (service, name) ∉ (made s).map placeOf := by
  rcases r.trace_cases b now service name s with
    ⟨id, _, done⟩ | ⟨_, e, _, done⟩ | ⟨_, l, listing, done⟩
  · rw [done] at missing
    cases missing
  · rw [done] at missing
    cases missing
  · rw [done] at missing
    intro there
    obtain ⟨⟨other, listedName⟩, created, same⟩ := List.mem_map.mp there
    obtain ⟨rfl, sameName⟩ := Prod.mk.inj same
    obtain ⟨t, shown, rfl, real⟩ := lists.listed other s l listing listedName created
    have found : lastListedTrace (normalize name) l = none := by
      cases known : lastListedTrace (normalize name) l with
      | none => rfl
      | some id =>
        rw [known] at missing
        cases missing
    simp only [lastListedTrace, lastListed, Option.map_eq_none_iff, List.getLast?_eq_none_iff,
      List.filter_eq_nil_iff] at found
    apply found (t.name, t.id) (List.mem_map_of_mem shown)
    simp [real, sameName]

theorem Resolver.made_service (lists : b.ListsCreated made) (now : Instant) (name : String)
    (r : Resolver) (s : σ) : made (r.service b now name s).2.2 = made s := by
  rcases r.service_cases b now name s with ⟨_, _, done⟩ | ⟨_, _, _, done⟩ | ⟨_, _, _, done⟩
  · rw [done]
  · rw [done]
    exact lists.listServices s
  · rw [done]
    exact lists.listServices s

theorem Resolver.made_trace (lists : b.ListsCreated made) (now : Instant) (service : ServiceId)
    (name : String) (r : Resolver) (s : σ) :
    made (r.trace b now service name s).2.2 = made s := by
  rcases r.trace_cases b now service name s with ⟨_, _, done⟩ | ⟨_, _, _, done⟩ | ⟨_, _, _, done⟩
  · rw [done]
  · rw [done]
    exact lists.listTraces service .empty s
  · rw [done]
    exact lists.listTraces service .empty s

/-- What a backend created on top of `before`: nothing twice, and nothing that was there. -/
structure Backend.OnlyNew (before added : List (ServiceId × String)) : Prop where
  distinct : (added.map placeOf).Nodup
  unseen : (added.map placeOf).Disjoint (before.map placeOf)

namespace Backend.OnlyNew

variable {before added more : List (ServiceId × String)}

theorem none (before : List (ServiceId × String)) : OnlyNew before [] where
  distinct := List.nodup_nil
  unseen := List.disjoint_nil_left _

theorem one {t : ServiceId × String} (new : placeOf t ∉ before.map placeOf) :
    OnlyNew before [t] where
  distinct := List.nodup_singleton _
  unseen := List.singleton_disjoint.mpr new

theorem trans (h : OnlyNew before added) (h' : OnlyNew (before ++ added) more) :
    OnlyNew before (added ++ more) := by
  have apart := h'.unseen
  rw [List.map_append, List.disjoint_append_right] at apart
  constructor
  · rw [List.map_append]
    exact h.distinct.append h'.distinct (List.disjoint_symm apart.2)
  · rw [List.map_append, List.disjoint_append_left]
    exact ⟨h.unseen, apart.1⟩

end Backend.OnlyNew

namespace Upload

/-- What a row of calls may do to what was created: add what is new. -/
def Adds (made : σ → List (ServiceId × String)) (s s' : σ) : Prop :=
  ∃ added, made s' = made s ++ added ∧ OnlyNew (made s) added

theorem Adds.of_eq {s s' : σ} (same : made s' = made s) : Adds made s s' :=
  ⟨[], by rw [same, List.append_nil], .none _⟩

theorem Adds.trans {s s' s'' : σ} (h : Adds made s s') (h' : Adds made s' s'') :
    Adds made s s'' := by
  obtain ⟨added, grown, new⟩ := h
  obtain ⟨more, grown', new'⟩ := h'
  rw [grown] at grown' new'
  exact ⟨added ++ more, by rw [grown', List.append_assoc], new.trans new'⟩

theorem made_search (lists : b.ListsCreated made) (setting : UploadSetting) (service : ServiceId)
    (request : UploadRequest) (r : Resolver) (s : σ) :
    made (search b setting service request r s).2.2 = made s := by
  rw [search]
  cases request.trace with
  | none => rfl
  | some name => exact r.made_trace lists setting.now service name s

/-- Choosing a trace by name creates it only where it was missing a moment ago. -/
theorem target_adds (lists : b.ListsCreated made) (setting : UploadSetting) (service : ServiceId)
    {request : UploadRequest} (named : request.trace.isSome) (r : Resolver) (s : σ) :
    Adds made s (target b setting service request r s).2.2 := by
  obtain ⟨name, named⟩ := Option.isSome_iff_exists.mp named
  have searched := made_search lists setting service request r s
  rcases found_cases (search b setting service request r s).1 with
    ⟨e, failed, lasting⟩ | ⟨id, known⟩ | absent
  · rw [target_of_error failed lasting]
    exact .of_eq searched
  · rw [target_of_found known]
    exact .of_eq searched
  · rw [target_of_absent absent]
    have missing : placeOf (service, name) ∉ (made s).map placeOf := by
      rw [search, named] at absent
      obtain ⟨kind, n, missing⟩ := absent _ rfl
      exact Resolver.not_made_of_notFound lists missing
    have title : traceName setting request = name := by rw [traceName, named]; rfl
    have created := lists.createTrace service
      ⟨name, request.tags.withoutReserved, request.baseSpec⟩
      (search b setting service request r s).2.2
    rw [create, title]
    rcases answer : b.createTrace service
        ⟨name, request.tags.withoutReserved, request.baseSpec⟩
        (search b setting service request r s).2.2 with ⟨e | info, s'⟩
    all_goals
      rw [answer, searched] at created
      rcases created with applied | same
      · exact ⟨[(service, name)], applied, .one missing⟩
      · exact .of_eq same

/-- Feeding a chain and closing it create nothing. -/
theorem made_deliver (lists : b.ListsCreated made) (service : ServiceId) (chosen : UploadTarget)
    (source : EventSource) (c : Collector) (w : Stamped σ) :
    made (deliver b.stamped service chosen (source.feed b) c w).2.2.state = made w.state := by
  have kept : b.stamped.AppendsKeep fun w : Stamped σ => made w.state :=
    lists.stamped.appendEvents
  have keeps : EventSource.Keeps b (fun _ _ v => made v.state = made w.state)
      (fun _ v => made v.state = made w.state) := {
    taken := fun m e _ c v _ same _ => (c.view_process kept m e v).trans same
    refused := fun m e _ c v _ same _ => (c.view_process kept m e v).trans same
    ticked := fun now _ c v same _ => (c.view_flushIfDue kept now v).trans same
    stuck := fun now _ c v _ same _ => (c.view_flushIfDue kept now v).trans same
    woken := fun _ _ _ _ same => same }
  obtain ⟨good, bad⟩ := keeps.feed source (c := c) (w := w) rfl
  rcases deliver_cases b.stamped service chosen (source.feed b) c w with
    ⟨fault, stopped, done⟩ | ⟨n, fed, fault, _, done⟩ | ⟨n, fed, _, done⟩
  · rw [done]
    exact bad fault stopped
  · rw [done]
    exact ((source.feed b c w).collector.view_close kept _).trans (good n fed)
  · rw [done]
    exact ((source.feed b c w).collector.view_close kept _).trans (good n fed)

/-- One upload creates at most the trace it is for, and only if nothing of that name was there. -/
theorem upload_adds (lists : b.ListsCreated made) (setting : UploadSetting)
    {request : UploadRequest} (named : request.trace.isSome) (source : EventSource) (r : Resolver)
    (w : Stamped σ) :
    Adds (fun w : Stamped σ => made w.state) w (source.upload b setting request r w).state := by
  have looked := r.made_service lists.stamped setting.now request.service w
  have chosen := fun service => (Adds.of_eq looked).trans (target_adds lists.stamped setting service
    named (r.service b.stamped setting.now request.service w).2.1
    (r.service b.stamped setting.now request.service w).2.2)
  rcases upload_cases b setting request source r w with
    ⟨-, same⟩ | ⟨-, same⟩ | ⟨service, -, same | ⟨t, c, same⟩⟩
  · rw [same]
    exact .of_eq rfl
  · rw [same]
    exact .of_eq looked
  · rw [same]
    exact chosen service
  · rw [same]
    exact (chosen service).trans (.of_eq (made_deliver lists service t source c _))

end Upload

namespace Uploader

open Upload

/-- The errand names the trace that it is for. -/
def Named : Errand → Prop
  | .upload _ request _ => request.trace.isSome
  | .forget => True

theorem step_adds (lists : b.ListsCreated made) (x : Uploader σ) {errand : Errand}
    (named : Named errand) :
    Adds (fun w : Stamped σ => made w.state) x.world (x.step b errand).world := by
  cases errand with
  | upload fresh request source =>
    exact upload_adds lists (x.setting fresh) named source x.resolver x.world
  | forget => exact .of_eq rfl

theorem run_adds (lists : b.ListsCreated made) (x : Uploader σ) {errands : List (Nat × Errand)}
    (named : ∀ q ∈ errands, Named q.2) :
    Adds (fun w : Stamped σ => made w.state) x.world (x.run b errands).world := by
  induction errands generalizing x with
  | nil => exact .of_eq rfl
  | cons q rest ih =>
    obtain ⟨nanos, errand⟩ := q
    have first : Adds (fun w : Stamped σ => made w.state) x.world
        ((x.wait nanos).step b errand).world :=
      (x.wait nanos).step_adds lists (named _ List.mem_cons_self)
    exact first.trans (ih _ fun q given => named q (List.mem_cons_of_mem _ given))

/-- However an uploader is used, with whatever its resolver remembers, the backend creates at most
one trace of a name in a service, and none where there was one at the start. -/
theorem created_once (lists : b.ListsCreated made) (x : Uploader σ)
    (errands : List (Nat × Errand)) (named : ∀ q ∈ errands, Named q.2) :
    ∃ added, made (x.run b errands).world.state = made x.world.state ++ added ∧
      ∀ service key,
        let before := ((made x.world.state).map placeOf).count (service, key)
        let created := (added.map placeOf).count (service, key)
        (before = 0 → created ≤ 1) ∧ (0 < before → created = 0) := by
  obtain ⟨added, grown, distinct, unseen⟩ := x.run_adds lists named
  refine ⟨added, grown, fun service key => ⟨fun _ => ?_, fun there => ?_⟩⟩
  · exact List.nodup_iff_count_le_one.mp distinct (service, key)
  · rw [List.count_eq_zero]
    exact fun new => unseen new (List.count_pos_iff.mp there)

/-- A creation that is applied and answered with an error is found by the next upload of that name,
and a trace from before is found as well. -/
theorem created_once_unacknowledged :
    let b := scripted.cataloguing fun _ => true
    let shop : ServiceId := ⟨.fill 1⟩
    let s : Script :=
      ⟨.ok [⟨shop, "Shop"⟩], .ok [], [.error (.timeout 1)], [], 0, fun _ => ⟨.fill 2⟩⟩
    let x := Uploader.start .nil .standard (.ofSecs 30) (.ofSecs 300) (s, [(shop, "Old")])
    let use name append := Errand.upload .nil
      ⟨"shop", some name, append, .empty, none, false, [], []⟩ (.ready [])
    let errands := [(0, use "Orders" false), (5, .forget), (7, use " ORDERS" true),
      (1, use "old " false)]
    (∀ q ∈ errands, Named q.2) ∧
      (x.run b errands).world.state.2 = [(shop, "Old"), (shop, "Orders")] ∧
      ∃ added, (x.run b errands).world.state.2 = x.world.state.2 ++ added ∧
        ∀ service key,
          let before := (x.world.state.2.map placeOf).count (service, key)
          let created := (added.map placeOf).count (service, key)
          (before = 0 → created ≤ 1) ∧ (0 < before → created = 0) := by
  intro b shop s x use errands
  have named : ∀ q ∈ errands, Named q.2 := by simp [errands, use, Named]
  have lists : b.ListsCreated Prod.snd := cataloguing_listsCreated scripted fun _ => true
  have made : (x.run b errands).world.state.2 = [(shop, "Old"), (shop, "Orders")] := by
    decide +kernel
  exact ⟨named, made, created_once lists x errands named⟩

end Uploader

end TrafficTrace
