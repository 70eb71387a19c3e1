import TrafficTrace.Proofs.Sync.Decision

/-!
# Uploads one after another

One resolver and one backend serve many uploads. Between two of them time passes, and the resolver
may be made to forget everything. What every upload keeps, a whole row of uploads keeps.
-/
namespace TrafficTrace

open Backend

variable {σ : Type}

namespace Upload

/-- How far an upload gets: nowhere with a bad request, then to its service, to its trace, and to
its events. -/
theorem upload_cases (b : Backend σ) (setting : UploadSetting) (request : UploadRequest)
    (source : EventSource) (r : Resolver) (w : Stamped σ) :
    let o := source.upload b setting request r w
    let served := r.service b.stamped setting.now request.service w
    (o.resolver = r ∧ o.state = w) ∨
    (o.resolver = served.2.1 ∧ o.state = served.2.2) ∨
    ∃ service,
      let chosen := target b.stamped setting service request served.2.1 served.2.2
      o.resolver = chosen.2.1 ∧ (o.state = chosen.2.2 ∨
        ∃ t c, o.state = (deliver b.stamped service t (source.feed b) c chosen.2.2).2.2) := by
  intro o served
  have same : o = run b.stamped setting request (source.feed b) r w := source.upload_eq ..
  rw [same]
  rcases request.compile_cases with ⟨_, rules, compiled⟩ | ⟨_, _, _, _, _, _, refused⟩
  · cases found : served.1 with
    | error e =>
      rw [run_of_service_error compiled found]
      exact .inr (.inl ⟨rfl, rfl⟩)
    | ok service =>
      refine .inr (.inr ⟨service, ?_⟩)
      intro chosen
      obtain ⟨bad, good⟩ := run_of_service (source.feed b) compiled found
      cases picked : chosen.1 with
      | error e =>
        rw [bad e picked]
        exact ⟨rfl, .inl rfl⟩
      | ok t =>
        rw [good t picked]
        exact ⟨rfl, .inr ⟨t, _, rfl⟩⟩
  · rw [run_of_compile_error refused]
    exact .inl ⟨rfl, rfl⟩

end Upload

/-- What an uploader is asked for. -/
inductive Errand where
  | upload (fresh : Uuid) (request : UploadRequest) (source : EventSource)
  | forget

/-- An uploader in use, with the backend that it talks to. -/
structure Uploader (σ : Type) where
  client : Uuid
  policy : BatchPolicy
  resolver : Resolver
  now : Instant
  world : Stamped σ

namespace Uploader

def start (client : Uuid) (policy : BatchPolicy) (fresh hard : Duration) (s : σ) : Uploader σ :=
  ⟨client, policy, .empty fresh hard, 0, .start s⟩

def wait (x : Uploader σ) (nanos : Nat) : Uploader σ := { x with now := x.now + nanos }

def setting (x : Uploader σ) (fresh : Uuid) : UploadSetting := ⟨x.client, x.policy, x.now, fresh⟩

def upload (b : Backend σ) (x : Uploader σ) (fresh : Uuid) (request : UploadRequest)
    (source : EventSource) : UploadOutcome (Stamped σ) :=
  source.upload b (x.setting fresh) request x.resolver x.world

def step (b : Backend σ) (x : Uploader σ) : Errand → Uploader σ
  | .upload fresh request source =>
    let o := x.upload b fresh request source
    { x with resolver := o.resolver, world := o.state }
  | .forget => { x with resolver := x.resolver.clear }

/-- Every errand is run after some time. -/
def run (b : Backend σ) (x : Uploader σ) : List (Nat × Errand) → Uploader σ
  | [] => x
  | (nanos, errand) :: rest => run b ((x.wait nanos).step b errand) rest

/-- What uploads and forgetting keep of the resolver, all errands keep. -/
theorem resolver_run {b : Backend σ} {P : Resolver → Prop} (cleared : ∀ r, P r → P r.clear)
    (uploaded : ∀ setting request (source : EventSource) r w, P r →
      P (source.upload b setting request r w).resolver)
    (x : Uploader σ) (errands : List (Nat × Errand)) (h : P x.resolver) :
    P (x.run b errands).resolver := by
  induction errands generalizing x with
  | nil => exact h
  | cons q rest ih =>
    obtain ⟨nanos, errand⟩ := q
    apply ih
    cases errand with
    | upload fresh request source => exact uploaded _ request source x.resolver x.world h
    | forget => exact cleared x.resolver h

end Uploader

end TrafficTrace
