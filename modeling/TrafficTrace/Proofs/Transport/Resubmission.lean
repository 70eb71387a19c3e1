import TrafficTrace.Proofs.Backend.CallLog
import TrafficTrace.Proofs.Collector.Requests
import TrafficTrace.Proofs.Transport.Retrying
import TrafficTrace.Transport.Client

/-!
# A batch that is submitted over a transport

A collector submits a batch once more after a failure in passing, and so does a transport with the
request of the submission. The two meet at `Attempted`, which says what one call adds to the log of
the network: a call that ends in a failure in passing has sent a single request, and its policy
allows no second one.
-/
namespace TrafficTrace

variable {σ ρ α : Type}

namespace Network

def Effect.request? : Effect → Option HttpRequest
  | .sent q _ => some q
  | .paused _ => none

/-- The requests in a log. -/
def requests (log : List Effect) : List HttpRequest := log.filterMap Effect.request?

@[simp] theorem requests_append (l m : List Effect) :
    requests (l ++ m) = requests l ++ requests m := List.filterMap_append

theorem requests_conversation (p : RetryPolicy) (q : HttpRequest) (answer : Nat → Exchange)
    (k : Nat) : requests (conversation p q answer (k + 1)) = List.replicate (k + 1) q := by
  induction k with
  | zero => rfl
  | succ k ih =>
    rw [conversation_succ, requests_append, ih, List.replicate_succ' (n := k + 1)]
    rfl

end Network

namespace Transport

open RetryPolicy Network

/-- The final form of a request, if it can be sent. -/
def prepared? (t : Transport ρ) (n : Network σ) (r : ApiRequest) : Option HttpRequest :=
  t.settings.credentials.bind fun credentials =>
    (t.connect n).toOption.bind fun c => (t.prepare c credentials r).toOption

theorem eq_ok_of_toOption {ε β : Type} {x : Except ε β} {y : β} (h : x.toOption = some y) :
    x = .ok y := by
  cases x with
  | error e => cases h
  | ok y' =>
    cases h
    rfl

theorem exists_of_prepared? {t : Transport ρ} {n : Network σ} {r : ApiRequest} {q : HttpRequest}
    (h : t.prepared? n r = some q) : ∃ credentials c, t.settings.credentials = some credentials ∧
      t.connect n = .ok c ∧ t.prepare c credentials r = .ok q := by
  obtain ⟨credentials, given, h⟩ := Option.bind_eq_some_iff.mp h
  obtain ⟨c, connected, ready⟩ := Option.bind_eq_some_iff.mp h
  exact ⟨credentials, c, given, eq_ok_of_toOption connected, eq_ok_of_toOption ready⟩

theorem prepared?_eq_some {t : Transport ρ} {n : Network σ} {r : ApiRequest} {q : HttpRequest}
    (h : t.prepared? n r = some q) : q.method = r.method ∧ q.body = r.body.map Json.toText := by
  obtain ⟨credentials, c, -, -, ready⟩ := exists_of_prepared? h
  obtain ⟨method, body, -⟩ := (t.checked_prepare c credentials r).of_ok ready
  exact ⟨method, body⟩

/-- The first request of a log ended in a failure in passing. -/
def FailsFirst (sent : List Effect) : Prop :=
  ∃ q x rest, sent = .sent q x :: rest ∧ isPassing (x.outcome q) = true

/-- What one call adds to the log of the network, and how it ends. -/
structure Attempted (t : Transport ρ) (n : Network σ) (r : ApiRequest) {β : Type}
    (result : Except TransportError β) (sent : List Effect) : Prop where
  prepared : ∀ q ∈ requests sent, t.prepared? n r = some q
  count : (requests sent).length ≤ t.settings.retry.limit r.idempotent
  /-- A failure in passing that was not the only attempt is told as the end of the attempts, which
  does not pass. -/
  passing_iff : isPassing result = true ↔ t.settings.retry.limit r.idempotent = 1 ∧ FailsFirst sent

theorem Attempted.refused {t : Transport ρ} {n : Network σ} {r : ApiRequest} {β : Type}
    {result : Except TransportError β} (lasting : isPassing result = false) :
    Attempted t n r result [] where
  prepared := by simp [requests]
  count := Nat.zero_le _
  passing_iff := by simp [lasting, FailsFirst]

theorem isPassing_verdict {r : Except TransportError α} {k : Nat} :
    isPassing (verdict k r) = true ↔ isPassing r = true ∧ k ≤ 1 := by
  cases r with
  | ok body => simp [verdict, isPassing]
  | error e =>
    rw [verdict]
    split
    · rename_i again
      obtain ⟨passing, several⟩ := Bool.and_eq_true_iff.mp again
      have several : 1 < k := of_decide_eq_true several
      simp [isPassing, TransportError.isRetryable, Nat.not_le.mpr several]
    · rename_i last
      simp only [Bool.and_eq_true, decide_eq_true_eq, not_and, Nat.not_lt] at last
      exact ⟨fun h => ⟨h, last h⟩, And.left⟩

/-- A request that can be sent is sent as often as the policy says. -/
theorem attempted_prepared {t : Transport ρ} {n : Network σ} {r : ApiRequest}
    {credentials : Credentials} {c : Connection} {q : HttpRequest}
    (given : t.settings.credentials = some credentials) (connected : t.connect n = .ok c)
    (ready : t.prepare c credentials r = .ok q) (s : σ) (log : List Effect) :
    ∃ sent, (t.exchange n.logged r (s, log)).2.2 = log ++ sent ∧
      Attempted t n r (t.exchange n.logged r (s, log)).1 sent := by
  have sent := exchange_prepared given connected ready s log _ rfl
  obtain ⟨⟨low, high⟩, before, final⟩ := firstFinal_spec 1 (t.settings.retry.limit r.idempotent - 1)
    fun i => (n.answerAt t.settings.retry q s i).outcome q
  have pos := limit_pred t.settings.retry r.idempotent
  rw [pos] at low high before final
  generalize firstFinal 1 (t.settings.retry.limit r.idempotent) _ = k at sent low high before final
  obtain ⟨k, rfl⟩ := Nat.exists_eq_succ_of_ne_zero (Nat.ne_of_gt low)
  rw [sent]
  refine ⟨_, rfl, ?_, ?_, ?_⟩
  · intro x hx
    rw [requests_conversation] at hx
    obtain rfl := List.eq_of_mem_replicate hx
    simp [prepared?, given, connected, ready, Except.toOption]
  · rw [requests_conversation, List.length_replicate]
    omega
  · rw [isPassing_verdict]
    constructor
    · rintro ⟨passing, single⟩
      obtain rfl : k = 0 := by omega
      have only : t.settings.retry.limit r.idempotent = 1 := by
        by_contra several
        rw [final (by omega)] at passing
        cases passing
      exact ⟨only, q, _, [], rfl, passing⟩
    · rintro ⟨only, q', x, rest, logged, passing⟩
      obtain rfl : k = 0 := by omega
      cases logged
      exact ⟨passing, Nat.le_refl _⟩

theorem attempted_exchange (t : Transport ρ) (n : Network σ) (r : ApiRequest) (s : σ)
    (log : List Effect) :
    ∃ sent, (t.exchange n.logged r (s, log)).2.2 = log ++ sent ∧
      Attempted t n r (t.exchange n.logged r (s, log)).1 sent := by
  have refused {e : TransportError} (untouched : t.exchange n.logged r (s, log) =
      (.error e, (s, log))) (lasting : e.isRetryable = false) :
      ∃ sent, (t.exchange n.logged r (s, log)).2.2 = log ++ sent ∧
        Attempted t n r (t.exchange n.logged r (s, log)).1 sent := by
    rw [untouched]
    exact ⟨[], (List.append_nil _).symm, .refused lasting⟩
  cases given : t.settings.credentials with
  | none => exact refused (exchange_unauthenticated given _ _ _) rfl
  | some credentials =>
    cases connected : t.connect n with
    | error e =>
      obtain ⟨text, rfl⟩ := (t.checked_connect n).of_error connected
      exact refused (exchange_unconnected (n := n.logged) given connected _ _) rfl
    | ok c =>
      cases ready : t.prepare c credentials r with
      | error e =>
        obtain ⟨text, rfl⟩ := (t.checked_prepare c credentials r).of_error ready
        exact refused (exchange_unprepared (n := n.logged) given connected ready _) rfl
      | ok q => exact attempted_prepared given connected ready s log

/-- An answer that cannot be read is no failure in passing. -/
theorem isPassing_bind_decodeBody (answer : Document.Decoder α)
    (received : Except TransportError (List UInt8)) :
    isPassing (received.bind (decodeBody answer)) = isPassing received := by
  cases received with
  | error e => rfl
  | ok body =>
    show isPassing (decodeBody answer body) = false
    rw [decodeBody]
    generalize ite (body.all isBlankByte = true) _ _ = read
    cases read <;> rfl

theorem attempted_send (t : Transport ρ) (n : Network σ) (call : ApiCall α)
    (s : Observed ρ (σ × List Effect)) :
    ∃ sent, (t.send n.logged call s).2.state.2 = s.state.2 ++ sent ∧
      Attempted t n call.request (t.send n.logged call s).1 sent := by
  obtain ⟨sent, log, attempted⟩ := attempted_exchange t n call.request s.state.1 s.state.2
  refine ⟨sent, log, attempted.prepared, attempted.count, ?_⟩
  rw [← attempted.passing_iff]
  exact Iff.of_eq (congrArg (· = true) (isPassing_bind_decodeBody _ _))

end Transport

namespace BatchCollector

open Backend Network RetryPolicy

open Transport (Attempted FailsFirst)

/-- The request that submits a batch. -/
def request (c : BatchCollector) : ApiRequest :=
  (ApiRequest.post "session.append_events"
    (ServiceCall.pathIn c.service ["traces", c.trace.toText, "events"]) c.batch.toJson).repeatable

/-- One submission is one call of the backend. -/
theorem attempted_append (t : Transport ρ) (n : Network σ) (c : BatchCollector)
    (w : Stamped (Observed ρ (σ × List Effect))) :
    let appended := (t.backend n.logged).stamped.appendEvents c.service c.trace c.batch w
    ∃ sent x, appended.2.state.state.2 = w.state.state.2 ++ sent ∧
      appended.2.calls = w.calls ++ [x] ∧ x.call = .appendEvents c.service c.trace c.batch ∧
      Attempted t n c.request appended.1 sent := by
  obtain ⟨sent, log, attempted⟩ := Transport.attempted_send t n
    ⟨c.request, (ServiceCall.appendEvents c.service c.trace c.batch).answer⟩ w.state
  exact ⟨sent, _, log, rfl, rfl, attempted⟩

theorem submit_of_final {b : Backend σ} {c : BatchCollector} {batch : EventBatch} {s : σ}
    (h : isPassing (b.appendEvents c.service c.trace batch s).1 = false) :
    submit b c batch s = b.appendEvents c.service c.trace batch s := by
  rw [submit]
  rcases done : b.appendEvents c.service c.trace batch s with ⟨e | answer, s'⟩
  · rw [done] at h
    have lasting : e.isRetryable = false := h
    simp [lasting]
  · rfl

theorem submit_of_passing {b : Backend σ} {c : BatchCollector} {batch : EventBatch} {s : σ}
    (h : isPassing (b.appendEvents c.service c.trace batch s).1 = true) :
    submit b c batch s =
      b.appendEvents c.service c.trace batch (b.appendEvents c.service c.trace batch s).2 := by
  rw [submit]
  rcases done : b.appendEvents c.service c.trace batch s with ⟨e | answer, s'⟩ <;> rw [done] at h
  · have passing : e.isRetryable = true := h
    simp [passing]
  · cases h

/-- The retries of a collector and of its transport do not multiply. For one batch there are at most
two requests or as many as the policy of the transport allows, and all are the same request. The
collector submits again only if the transport makes single attempts and that one failed in
passing. -/
theorem flush_retries_once (t : Transport ρ) (n : Network σ) (c : BatchCollector)
    (w : Stamped (Observed ρ (σ × List Effect))) (filled : c.buffer ≠ []) :
    let after := (flush (t.backend n.logged).stamped c w).2.2
    let attempts := t.settings.retry.maxAttempts
    ∃ sent calls, after.state.state.2 = w.state.state.2 ++ sent ∧ after.calls = w.calls ++ calls ∧
      (requests sent).length ≤ max 2 attempts ∧
      (∀ q ∈ requests sent, t.prepared? n c.request = some q ∧ q.method = .post ∧
        q.body = some c.batch.toJson.sorted.toText) ∧
      (∀ x ∈ calls, x.call = .appendEvents c.service c.trace c.batch) ∧
      (calls.length = 1 ∨ calls.length = 2) ∧
      (2 ≤ attempts → calls.length = 1) ∧
      (attempts ≤ 1 → (requests sent).length ≤ calls.length ∧
        (calls.length = 2 ↔ FailsFirst sent)) := by
  intro after attempts
  have landed : after = (submit (t.backend n.logged).stamped c c.batch w).2 :=
    (flush_filled filled w).1
  have limit : t.settings.retry.limit c.request.idempotent = max attempts 1 := rfl
  have told {sent : List Effect} (prepared : ∀ q ∈ requests sent, t.prepared? n c.request = some q)
      (q : HttpRequest) (hq : q ∈ requests sent) : t.prepared? n c.request = some q ∧
        q.method = .post ∧ q.body = some c.batch.toJson.sorted.toText :=
    ⟨prepared q hq, Transport.prepared?_eq_some (prepared q hq)⟩
  obtain ⟨sent, x, log, record, called, first⟩ := attempted_append t n c w
  have count := first.count
  cases passing : isPassing
      ((t.backend n.logged).stamped.appendEvents c.service c.trace c.batch w).1 with
  | false =>
    rw [submit_of_final passing] at landed
    have lasting (single : attempts ≤ 1) : ¬ FailsFirst sent := by
      intro fails
      rw [first.passing_iff.mpr ⟨by omega, fails⟩] at passing
      cases passing
    refine ⟨sent, [x], by rw [landed, log], by rw [landed, record], by omega, told first.prepared,
      by simpa using called, .inl rfl, fun _ => rfl, fun single => ⟨?_, ?_⟩⟩
    · rw [List.length_singleton]
      omega
    · simp [lasting single]
  | true =>
    rw [submit_of_passing passing] at landed
    obtain ⟨single, fails⟩ := first.passing_iff.mp passing
    obtain ⟨sent', x', log', record', called', second⟩ := attempted_append t n c
      ((t.backend n.logged).stamped.appendEvents c.service c.trace c.batch w).2
    have count' := second.count
    refine ⟨sent ++ sent', [x, x'], ?_, ?_, ?_, ?_, by simp [called, called'], .inr rfl, by omega,
      fun _ => ⟨?_, ?_⟩⟩
    · rw [landed, log', log, List.append_assoc]
    · rw [landed, record', record, List.append_assoc, List.singleton_append]
    · rw [requests_append, List.length_append]
      omega
    · intro q hq
      rw [requests_append] at hq
      rcases List.mem_append.mp hq with hq | hq
      · exact told first.prepared q hq
      · exact told second.prepared q hq
    · rw [requests_append, List.length_append]
      simp only [List.length_cons, List.length_nil]
      omega
    · obtain ⟨q, y, rest, rfl, failed⟩ := fails
      exact iff_of_true rfl ⟨q, y, rest ++ sent', rfl, failed⟩

/-- A transport that makes single attempts, and a first one that breaks off: the batch is submitted
again. -/
theorem flush_retries_once_single :
    let c := (start .nil .nil .nil .standard).push 0 (.request "GET" "shop.example" "/" .epoch)
    let w := Stamped.start ⟨([.timedOut, .answered 503 []], []), .empty, []⟩
    c.buffer ≠ [] ∧
      (flush ((Transport.sample 1).backend Network.scripted.logged).stamped c
        w).2.2.calls.length = 2 ∧
      (requests (flush ((Transport.sample 1).backend Network.scripted.logged).stamped c
        w).2.2.state.state.2).length ≤ 2 := by
  intro c w
  have filled : c.buffer ≠ [] := by decide
  obtain ⟨sent, calls, log, record, bound, -, -, -, -, few⟩ :=
    flush_retries_once (Transport.sample 1) Network.scripted c w filled
  have failed : ((flush ((Transport.sample 1).backend Network.scripted.logged).stamped c
      w).2.2.state.state.2.head?.any fun
      | .sent q x => isPassing (x.outcome q)
      | .paused _ => false) = true := by decide +kernel
  rw [log] at failed ⊢
  rw [record]
  have fails : FailsFirst sent := by
    rcases sent with _ | ⟨⟨q, x⟩ | d, rest⟩
    · cases failed
    · exact ⟨q, x, rest, rfl, failed⟩
    · cases failed
  exact ⟨filled, (few (Nat.le_refl _)).2.mpr fails, bound⟩

end BatchCollector

end TrafficTrace
