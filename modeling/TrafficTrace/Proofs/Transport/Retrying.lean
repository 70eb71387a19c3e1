import Mathlib.Data.List.Range
import TrafficTrace.Document.Record
import TrafficTrace.Transport.Basic

/-!
# Attempts of a call

A request that may be repeated is sent until its outcome is final or the attempts are used up. What
a call sends, how long it waits in between, what it gives back and what it reports are stated here
against the answers that the network would give to the same request sent again and again.
-/
namespace TrafficTrace

variable {σ ρ α : Type}

namespace RetryPolicy

variable {β : Type}

/-- A failure after which the same request may succeed. -/
def isPassing : Except TransportError β → Bool
  | .ok _ => false
  | .error e => e.isRetryable

/-- The number of the first attempt from attempt `first` on, among `count` of them, whose outcome is
final; the last number if there is none. -/
def firstFinal (first count : Nat) (outcome : Nat → Except TransportError β) : Nat :=
  ((List.range' first count).find? fun i => !isPassing (outcome i)).getD (first + count - 1)

/-- What is given back for the outcome of the last attempt: a failure in passing that is not the
first one is told as the end of the attempts. -/
def verdict (made : Nat) : Except TransportError β → Except TransportError β
  | .ok body => .ok body
  | .error e => if e.isRetryable && 1 < made then .error (.retriesExhausted made e) else .error e

theorem firstFinal_of_final {outcome : Nat → Except TransportError β} {first : Nat}
    (h : isPassing (outcome first) = false) (count : Nat) :
    firstFinal first (count + 1) outcome = first := by
  simp [firstFinal, List.range'_succ, h]

theorem firstFinal_of_passing {outcome : Nat → Except TransportError β} {first : Nat}
    (h : isPassing (outcome first) = true) (count : Nat) :
    firstFinal first (count + 2) outcome = firstFinal (first + 1) (count + 1) outcome := by
  have ends : first + (count + 2) - 1 = first + 1 + (count + 1) - 1 := by omega
  rw [firstFinal, List.range'_succ, List.find?_cons, h, ends]
  rfl

theorem firstFinal_one (first : Nat) (outcome : Nat → Except TransportError β) :
    firstFinal first 1 outcome = first := by
  simp only [firstFinal, List.range'_one, List.find?_cons, List.find?_nil]
  cases isPassing (outcome first) <;> rfl

/-- What the number says: all attempts before are failures in passing, and it is the last one or
final. -/
theorem firstFinal_spec (first count : Nat) (outcome : Nat → Except TransportError β) :
    let k := firstFinal first (count + 1) outcome
    (first ≤ k ∧ k ≤ first + count) ∧
    (∀ i, first ≤ i → i < k → isPassing (outcome i) = true) ∧
    (k < first + count → isPassing (outcome k) = false) := by
  induction count generalizing first with
  | zero =>
    rw [firstFinal_one]
    refine ⟨⟨le_rfl, le_rfl⟩, fun i h h' => absurd h (Nat.not_le.mpr h'), fun h => ?_⟩
    exact absurd h (Nat.lt_irrefl _)
  | succ count ih =>
    cases h : isPassing (outcome first) with
    | false =>
      rw [firstFinal_of_final h]
      refine ⟨⟨le_rfl, by omega⟩, fun i h h' => absurd h (Nat.not_le.mpr h'), fun _ => h⟩
    | true =>
      rw [firstFinal_of_passing h]
      obtain ⟨⟨low, high⟩, before, final⟩ := ih (first + 1)
      refine ⟨⟨by omega, by omega⟩, ?_, fun hk => final (by omega)⟩
      intro i hi hk
      by_cases same : i = first
      · rw [same, h]
      · exact before i (by omega) hk

/-- How many attempts there are at most. -/
def limit (p : RetryPolicy) (repeatable : Bool) : Nat :=
  if repeatable then max p.maxAttempts 1 else 1

/-- There is a first attempt. -/
theorem limit_pred (p : RetryPolicy) (repeatable : Bool) :
    p.limit repeatable - 1 + 1 = p.limit repeatable := by
  rw [limit]
  split <;> omega

/-- Before the last attempt another one is allowed. -/
theorem allowsAnother_of_lt {p : RetryPolicy} {repeatable : Bool} {made : Nat}
    (before : made + 1 < p.limit repeatable) :
    repeatable = true ∧ p.allowsAnother (made + 1) = true := by
  rw [limit] at before
  split at before
  · rename_i again
    exact ⟨again, allowsAnother_iff.mpr before⟩
  · omega

variable (p : RetryPolicy) (once : σ → Except TransportError β × σ) (pause : Duration → σ → σ)

/-- The state in which attempt `i` is made if all attempts before it fail in passing. The first
attempt is attempt 1. -/
def stateAt (s : σ) : Nat → σ
  | 0 | 1 => s
  | i + 2 => pause (p.backoff (i + 2)) (once (stateAt s (i + 1))).2

/-- The outcome of attempt `i`. -/
def outcomeAt (s : σ) (i : Nat) : Except TransportError β := (once (stateAt p once pause s i)).1

variable {p once pause}

theorem verdict_of_final {r : Except TransportError β} (h : isPassing r = false) (made : Nat) :
    verdict made r = r := by
  cases r with
  | ok body => rfl
  | error e =>
    have he : e.isRetryable = false := h
    simp [verdict, he]

theorem verdict_exhausted {r : Except TransportError β}
    (plain : ∀ made last, r ≠ .error (.retriesExhausted made last)) {k made : Nat}
    {last : TransportError} (h : verdict k r = .error (.retriesExhausted made last)) :
    r = .error last ∧ last.isRetryable = true ∧ made = k ∧ 1 < k := by
  cases r with
  | ok body => cases h
  | error e =>
    rw [verdict] at h
    split at h
    · rename_i again
      obtain ⟨passing, several⟩ := Bool.and_eq_true_iff.mp again
      cases h
      exact ⟨rfl, passing, rfl, of_decide_eq_true several⟩
    · exact absurd h (plain made last)

/-- A final outcome ends the loop. -/
theorem tries_of_final {s : σ} (h : isPassing (once s).1 = false) (repeatable : Bool)
    (made : Nat) : p.tries repeatable once pause made s = once s := by
  rw [tries]
  rcases done : once s with ⟨e | body, s'⟩
  · rw [done] at h
    have he : e.isRetryable = false := h
    simp [he]
  · rfl

/-- The last attempt ends it, and so does the only one. -/
theorem tries_last {s : σ} (h : isPassing (once s).1 = true) {repeatable : Bool} {made : Nat}
    (last : made + 1 = p.limit repeatable) :
    p.tries repeatable once pause made s = (verdict (made + 1) (once s).1, (once s).2) := by
  rw [tries]
  rcases done : once s with ⟨e | body, s'⟩ <;> rw [done] at h
  · have he : e.isRetryable = true := h
    cases repeatable with
    | false =>
      obtain rfl : made = 0 := by simpa [limit] using last
      simp [verdict]
    | true =>
      have spent : p.allowsAnother (made + 1) = false := by
        have all : made + 1 = max p.maxAttempts 1 := last
        rw [← Bool.not_eq_true, allowsAnother_iff]
        omega
      cases made with
      | zero => simp [verdict, he, spent]
      | succ made => simp [verdict, he, spent]
  · cases h

theorem tries_again {s : σ} (h : isPassing (once s).1 = true) {made : Nat}
    (allowed : p.allowsAnother (made + 1) = true) :
    p.tries true once pause made s =
      p.tries true once pause (made + 1) (pause (p.backoff (made + 2)) (once s).2) := by
  rw [tries]
  rcases done : once s with ⟨e | body, s'⟩ <;> rw [done] at h
  · have he : e.isRetryable = true := h
    simp [he, allowed]
  · cases h

/-- The loop from attempt `made + 1` on, with `left` more attempts after that one. -/
theorem tries_eq {repeatable : Bool} (s : σ) (left made k : Nat)
    (count : left + made + 1 = p.limit repeatable)
    (hk : firstFinal (made + 1) (left + 1) (outcomeAt p once pause s) = k) :
    p.tries repeatable once pause made (stateAt p once pause s (made + 1)) =
      (verdict k (outcomeAt p once pause s k), (once (stateAt p once pause s k)).2) := by
  induction left generalizing made with
  | zero =>
    rw [Nat.zero_add, firstFinal_one] at hk
    subst hk
    cases h : isPassing (outcomeAt p once pause s (made + 1)) with
    | false =>
      rw [verdict_of_final h]
      exact tries_of_final h repeatable made
    | true => exact tries_last h (by omega)
  | succ left ih =>
    cases h : isPassing (outcomeAt p once pause s (made + 1)) with
    | false =>
      rw [firstFinal_of_final h] at hk
      subst hk
      rw [verdict_of_final h]
      exact tries_of_final h repeatable made
    | true =>
      rw [firstFinal_of_passing h] at hk
      have before : made + 1 < p.limit repeatable := by omega
      obtain ⟨rfl, allowed⟩ := allowsAnother_of_lt before
      rw [tries_again h allowed]
      exact ih (made + 1) (by omega) hk

theorem tries_result (p : RetryPolicy) (repeatable : Bool)
    (once : σ → Except TransportError β × σ) (pause : Duration → σ → σ) (s : σ) :
    ∃ k, (p.tries repeatable once pause 0 s).1 = verdict k (outcomeAt p once pause s k) := by
  have looped := @tries_eq _ _ p once pause repeatable s _ 0 _ (p.limit_pred repeatable) rfl
  exact ⟨_, congrArg Prod.fst looped⟩

end RetryPolicy

namespace Network

/-- The state in which a network gets the same request for the `i`th time, with the waits of a
policy in between. -/
def stateAt (n : Network σ) (p : RetryPolicy) (q : HttpRequest) (s : σ) : Nat → σ
  | 0 | 1 => s
  | i + 2 => n.pause (p.backoff (i + 2)) (n.exchange q (stateAt n p q s (i + 1))).2

/-- What it answers then. -/
def answerAt (n : Network σ) (p : RetryPolicy) (q : HttpRequest) (s : σ) (i : Nat) : Exchange :=
  (n.exchange q (n.stateAt p q s i)).1

/-- A request that is sent `k` times, with the waits in between. -/
def conversation (p : RetryPolicy) (q : HttpRequest) (answer : Nat → Exchange) (k : Nat) :
    List Effect :=
  (List.range' 1 (k - 1)).flatMap (fun i => [.sent q (answer i), .paused (p.backoff (i + 1))]) ++
    [.sent q (answer k)]

theorem conversation_succ (p : RetryPolicy) (q : HttpRequest) (answer : Nat → Exchange)
    (k : Nat) : conversation p q answer (k + 2) =
      conversation p q answer (k + 1) ++
        [.paused (p.backoff (k + 2)), .sent q (answer (k + 2))] := by
  simp [conversation, List.range'_concat, Nat.add_comm 1 k]

theorem stateAt_logged (n : Network σ) (p : RetryPolicy) (q : HttpRequest) (s : σ)
    (log : List Effect) (k : Nat) :
    n.logged.exchange q (n.logged.stateAt p q (s, log) (k + 1)) =
      (n.answerAt p q s (k + 1), (n.exchange q (n.stateAt p q s (k + 1))).2,
        log ++ conversation p q (n.answerAt p q s) (k + 1)) := by
  induction k with
  | zero => rfl
  | succ k ih =>
    have before : n.logged.stateAt p q (s, log) (k + 2) = (n.stateAt p q s (k + 2),
        log ++ conversation p q (n.answerAt p q s) (k + 1) ++ [.paused (p.backoff (k + 2))]) := by
      rw [stateAt, ih]
      rfl
    rw [before, conversation_succ]
    simp [logged, answerAt]

/-- The log changes no answer. -/
theorem answerAt_logged (n : Network σ) (p : RetryPolicy) (q : HttpRequest) (s : σ)
    (log : List Effect) : n.logged.answerAt p q (s, log) = n.answerAt p q s := by
  funext i
  cases i with
  | zero => rfl
  | succ k => rw [answerAt, stateAt_logged]

end Network

namespace FailureReporter

/-- A reporter for which receivers were registered in this order. -/
def registered (hooks : List ρ) : FailureReporter ρ :=
  hooks.foldl (fun r hook => (r.register hook).2) .empty

theorem foldl_register_of_some (receiver : ρ) (hooks : List ρ) :
    hooks.foldl (fun r hook => (r.register hook).2) (⟨some receiver⟩ : FailureReporter ρ) =
      ⟨some receiver⟩ := by
  induction hooks with
  | nil => rfl
  | cons hook rest ih => exact ih

/-- The first one stays. -/
theorem registered_receiver (hooks : List ρ) : (registered hooks).receiver = hooks.head? := by
  cases hooks with
  | nil => rfl
  | cons hook rest => exact congrArg receiver (foldl_register_of_some hook rest)

end FailureReporter

namespace Transport

open RetryPolicy

/-- A value with a property, or a refusal of what was configured or asked for. -/
structure Checked {β : Type} (P : β → Prop) (x : Except TransportError β) : Prop where
  of_ok : ∀ {y}, x = .ok y → P y
  of_error : ∀ {e}, x = .error e → ∃ text, e = .config text

namespace Checked

variable {β γ : Type} {P : β → Prop} {Q : γ → Prop}

theorem ok {y : β} (h : P y) : Checked P (.ok y) where
  of_ok := by rintro y' ⟨⟩; exact h
  of_error := nofun

theorem config (text : String) : Checked P (.error (.config text)) where
  of_ok := nofun
  of_error := by rintro e ⟨⟩; exact ⟨text, rfl⟩

theorem bind {x : Except TransportError β} {f : β → Except TransportError γ} (hx : Checked P x)
    (hf : ∀ y, P y → Checked Q (f y)) : Checked Q (x >>= f) := by
  cases x with
  | error e =>
    obtain ⟨text, rfl⟩ := hx.of_error rfl
    exact .config text
  | ok y => exact hf y (hx.of_ok rfl)

theorem ite {p : Prop} [Decidable p] {x y : Except TransportError β} (hx : Checked P x)
    (hy : Checked P y) : Checked P (if p then x else y) := by
  split
  · exact hx
  · exact hy

end Checked

theorem checked_target (c : Connection) (r : ApiRequest) :
    Checked (fun url => target c r = .ok url) (target c r) where
  of_ok := id
  of_error := by
    rw [target]
    split
    · rintro _ ⟨⟩
      exact ⟨_, rfl⟩
    · nofun

/-- What is sent is what was asked for. It goes to its target, less a user in the address. -/
theorem checked_prepare (t : Transport ρ) (c : Connection) (credentials : Credentials)
    (r : ApiRequest) :
    Checked (fun q => q.method = r.method ∧ q.body = r.body.map Json.toText ∧ q.peer = c.peer ∧
        ∃ url, target c r = .ok url ∧ (q.url = url ∨ q.url = url.withoutUser))
      (t.prepare c credentials r) := by
  rw [prepare]
  refine (checked_target c r).bind fun url found => ?_
  split
  rename_i sent user shown
  have kept : sent = url ∨ sent = url.withoutUser := by
    split at shown <;> cases shown
    · exact .inr rfl
    · exact .inl rfl
  refine .ite (.bind (.config (P := fun _ => True) _) fun _ _ => ?_) ?_
  all_goals
    refine .ite (.bind (.config (P := fun _ => True) _) fun _ _ => .ok ?_) (.ok ?_) <;>
      exact ⟨rfl, rfl, rfl, url, found, kept⟩

/-- Without a server name in the settings the base itself is connected to. -/
theorem checked_connect (t : Transport ρ) (n : Network σ) :
    Checked (fun c => t.settings.tlsServerName = none → c = ⟨t.base, none⟩) (t.connect n) := by
  rw [connect]
  split
  on_goal 1 => refine .ite (.bind (.config (P := fun _ => True) _) fun _ _ => ?_) ?_
  -- with or without a proxy, the rest depends on the server name
  all_goals
    dsimp only
    split
    · exact .ok fun _ => rfl
    · exact .config _
    · rename_i name _ named _
      have open_named (base : Url) (host : Option Url.Host) :
          t.settings.tlsServerName = none → Connection.mk base host = ⟨t.base, none⟩ := by
        intro unnamed
        rw [named] at unnamed
        cases unnamed
      split
      on_goal 1 => refine .bind (.config (P := fun _ => True) _) fun _ _ => ?_
      all_goals
        split
        · exact .ok (open_named _ _)
        · exact .config _

theorem stateAt_attempt {t : Transport ρ} {c : Connection} {credentials : Credentials}
    {r : ApiRequest} {q : HttpRequest} (ready : t.prepare c credentials r = .ok q) (n : Network σ)
    (p : RetryPolicy) (s : σ) (i : Nat) :
    p.stateAt (t.attempt n c credentials r) n.pause s i = n.stateAt p q s i := by
  induction i with
  | zero => rfl
  | succ i ih =>
    cases i with
    | zero => rfl
    | succ i => simp only [RetryPolicy.stateAt, Network.stateAt, ih, attempt, ready]

theorem outcomeAt_attempt {t : Transport ρ} {c : Connection} {credentials : Credentials}
    {r : ApiRequest} {q : HttpRequest} (ready : t.prepare c credentials r = .ok q) (n : Network σ)
    (p : RetryPolicy) (s : σ) :
    p.outcomeAt (t.attempt n c credentials r) n.pause s = fun i =>
      (n.answerAt p q s i).outcome q := by
  funext i
  rw [outcomeAt, stateAt_attempt ready, attempt, ready]
  rfl

theorem exchange_unauthenticated {t : Transport ρ} (unset : t.settings.credentials = none)
    (n : Network σ) (r : ApiRequest) (s : σ) :
    t.exchange n r s = (.error (.missingCredentials t.settings.missing), s) := by
  rw [exchange, unset]

theorem exchange_unconnected {t : Transport ρ} {n : Network σ} {credentials : Credentials}
    {e : TransportError} (given : t.settings.credentials = some credentials)
    (failed : t.connect n = .error e) (r : ApiRequest) (s : σ) :
    t.exchange n r s = (.error e, s) := by
  rw [exchange, given]
  simp only [failed]

/-- A request that cannot be prepared is not sent, and not tried again. -/
theorem exchange_unprepared {t : Transport ρ} {n : Network σ} {credentials : Credentials}
    {c : Connection} {r : ApiRequest} {e : TransportError}
    (given : t.settings.credentials = some credentials) (connected : t.connect n = .ok c)
    (failed : t.prepare c credentials r = .error e) (s : σ) :
    t.exchange n r s = (.error e, s) := by
  have once : t.attempt n c credentials r s = (.error e, s) := by rw [attempt, failed]
  obtain ⟨text, rfl⟩ := (checked_prepare t c credentials r).of_error failed
  rw [exchange, given]
  simp only [connected]
  rw [tries_of_final (by rw [once]; rfl), once]

/-- A request that is prepared is sent until the first final outcome. -/
theorem exchange_prepared {t : Transport ρ} {n : Network σ} {credentials : Credentials}
    {c : Connection} {r : ApiRequest} {q : HttpRequest}
    (given : t.settings.credentials = some credentials) (connected : t.connect n = .ok c)
    (ready : t.prepare c credentials r = .ok q) (s : σ) (log : List Network.Effect) (k : Nat)
    (hk : firstFinal 1 (t.settings.retry.limit r.idempotent)
      (fun i => (n.answerAt t.settings.retry q s i).outcome q) = k) :
    t.exchange n.logged r (s, log) =
      (verdict k ((n.answerAt t.settings.retry q s k).outcome q),
        (n.exchange q (n.stateAt t.settings.retry q s k)).2,
        log ++ Network.conversation t.settings.retry q (n.answerAt t.settings.retry q s) k) := by
  have connected' : t.connect n.logged = .ok c := connected
  have reached := hk
  rw [← limit_pred] at reached
  have low : 1 ≤ k := reached ▸ (firstFinal_spec 1 _ _).1.1
  obtain ⟨k, rfl⟩ := Nat.exists_eq_succ_of_ne_zero (Nat.ne_of_gt low)
  have outcomes := outcomeAt_attempt ready n.logged t.settings.retry (s, log)
  rw [Network.answerAt_logged] at outcomes
  rw [exchange, given]
  simp only [connected']
  rw [← outcomes] at reached
  have looped := tries_eq (s, log) (t.settings.retry.limit r.idempotent - 1) 0 (k + 1)
    (limit_pred _ _) reached
  rw [RetryPolicy.stateAt] at looped
  rw [looped, outcomes, stateAt_attempt ready, attempt, ready]
  simp only [Network.stateAt_logged]

theorem outcome_ne_exhausted (q : HttpRequest) (x : Exchange) (made : Nat)
    (last : TransportError) : x.outcome q ≠ .error (.retriesExhausted made last) := by
  cases x with
  | answered status body =>
    rw [Exchange.outcome]
    split
    · exact nofun
    · split <;> exact nofun
  | unreachable => exact nofun
  | timedOut => exact nofun
  | cutShort => exact nofun

theorem attempt_ne_exhausted (t : Transport ρ) (n : Network σ) (c : Connection)
    (credentials : Credentials) (r : ApiRequest) (s : σ) (made : Nat) (last : TransportError) :
    (t.attempt n c credentials r s).1 ≠ .error (.retriesExhausted made last) := by
  rw [attempt]
  split
  · rename_i failed
    obtain ⟨text, rfl⟩ := (checked_prepare t c credentials r).of_error failed
    exact nofun
  · exact outcome_ne_exhausted _ _ _ _

/-- The end of the attempts is told of a failure in passing, which was not the first. -/
theorem exchange_exhausted {t : Transport ρ} {n : Network σ} {r : ApiRequest} {s : σ} {made : Nat}
    {last : TransportError} (h : (t.exchange n r s).1 = .error (.retriesExhausted made last)) :
    last.isRetryable = true ∧ 1 < made := by
  rw [exchange] at h
  split at h
  · cases h
  · split at h
    · rename_i failed
      obtain ⟨text, rfl⟩ := (checked_connect t n).of_error failed
      cases h
    · rename_i credentials _ _ c _
      obtain ⟨k, ended⟩ := tries_result t.settings.retry r.idempotent
        (t.attempt n c credentials r) n.pause s
      rw [ended] at h
      obtain ⟨-, passing, rfl, several⟩ := verdict_exhausted
        (fun made last => attempt_ne_exhausted _ _ _ _ _ _ made last) h
      exact ⟨passing, several⟩

/-- An error goes to the receiver, if there is one, and nothing else does. -/
theorem send_reports (t : Transport ρ) (n : Network σ) (call : ApiCall α) (s : Observed ρ σ) :
    (t.send n call s).2.reports = s.reports ++ match t.reporter.receiver, (t.send n call s).1 with
      | some receiver, .error e => [(receiver, ⟨call.request.method.name, call.request.path, e⟩)]
      | _, _ => [] := by
  rw [send]
  dsimp only
  congr 1
  split
  · rename_i ended
    simp only [ended]
    cases t.reporter.receiver <;> rfl
  · rename_i ended
    simp only [ended, FailureReporter.report]
    cases t.reporter.receiver <;> rfl

/-- A transport for which receivers were registered in this order. -/
def reporting (t : Transport ρ) (hooks : List ρ) : Transport ρ :=
  { t with reporter := .registered hooks }

/-- How a call is made. The request is sent again, after the wait of the policy, until an outcome is
not a failure in passing or there have been as many attempts as it is allowed; without credentials
it is not sent. The result is that of the last attempt, or says how many attempts failed if there
were several. An error is reported once, to the receiver that was registered first. -/
theorem send_follows_policy (t : Transport ρ) (hooks : List ρ) (n : Network σ) (call : ApiCall α)
    (s : Observed ρ (σ × List Network.Effect)) :
    let t := t.reporting hooks
    let r := call.request
    let p := t.settings.retry
    let received := (t.exchange n.logged r s.state).1
    let result := (t.send n.logged call s).1
    let after := (t.send n.logged call s).2
    let limit := if r.idempotent then max 1 p.maxAttempts else 1
    result = received.bind (decodeBody call.answer) ∧
    (t.settings.credentials = none →
      received = .error (.missingCredentials t.settings.missing) ∧ after.state = s.state) ∧
    (∀ credentials c, t.settings.credentials = some credentials → t.connect n = .ok c →
      (∀ e, t.prepare c credentials r = .error e → received = .error e ∧ after.state = s.state) ∧
      ∀ q, t.prepare c credentials r = .ok q →
        let answer := n.answerAt p q s.state.1
        ∃ k, 1 ≤ k ∧ k ≤ limit ∧
          (∀ i, 1 ≤ i → i < k → isPassing ((answer i).outcome q) = true) ∧
          (k < limit → isPassing ((answer k).outcome q) = false) ∧
          after.state.2 = s.state.2 ++ Network.conversation p q answer k ∧
          received = verdict k ((answer k).outcome q)) ∧
    (∀ made last, received = .error (.retriesExhausted made last) →
      last.isRetryable = true ∧ ∀ made' last', last ≠ .retriesExhausted made' last') ∧
    (∀ made last, (TransportError.retriesExhausted made last).isRetryable = false) ∧
    after.reports = s.reports ++ match hooks.head?, result with
      | some hook, .error e => [(hook, ⟨r.method.name, r.path, e⟩)]
      | _, _ => [] := by
  intro t r p received result after limit
  have state : after.state = (t.exchange n.logged r s.state).2 := rfl
  refine ⟨rfl, fun unset => ?_, fun credentials c given connected => ⟨fun e failed => ?_, ?_⟩,
    fun made last exhausted => ?_, fun _ _ => rfl, ?_⟩
  · have untouched := exchange_unauthenticated unset n.logged r s.state
    exact ⟨congrArg Prod.fst untouched, state.trans (congrArg Prod.snd untouched)⟩
  · have untouched := exchange_unprepared (n := n.logged) given connected failed s.state
    exact ⟨congrArg Prod.fst untouched, state.trans (congrArg Prod.snd untouched)⟩
  · intro q ready answer
    have allowed : p.limit r.idempotent = limit := by rw [RetryPolicy.limit, Nat.max_comm]
    have count : limit - 1 + 1 = limit := by rw [← allowed, limit_pred]
    obtain ⟨⟨low, high⟩, before, final⟩ := firstFinal_spec 1 (limit - 1)
      fun i => (answer i).outcome q
    have sent := exchange_prepared given connected ready s.state.1 s.state.2 _ rfl
    rw [allowed] at sent
    rw [count] at low high before final
    refine ⟨_, low, by omega, before, fun early => final (by omega), ?_, congrArg Prod.fst sent⟩
    rw [state]
    exact congrArg (fun x => x.2.2) sent
  · obtain ⟨passing, -⟩ := exchange_exhausted exhausted
    refine ⟨passing, ?_⟩
    rintro made' last' rfl
    cases passing
  · have reported := send_reports t n.logged call s
    have first : t.reporter.receiver = hooks.head? := FailureReporter.registered_receiver hooks
    rw [first] at reported
    exact reported

/-- A transport to the standard domain, with an identifier and a secret. -/
def sample (maxAttempts : Nat) : Transport Nat where
  settings := { TransportSettings.standard with
    credentials := some (.basic "id" "secret")
    retry := { RetryPolicy.standard with maxAttempts } }
  client := .nil
  reporter := .empty
  base := ⟨"https", "", none, some (.name "api.tracehound.dev"), none, .segments [""], none, none⟩

/-- Three attempts that fail in passing. -/
theorem send_follows_policy_exhausted :
    let call : ApiCall Unit :=
      ⟨.get "directory.list_services" "/v1/services", Document.Decoder.nothing⟩
    let s := ⟨([.timedOut, .answered 503 [], .answered 500 []], []), .empty, []⟩
    let q : HttpRequest :=
      { method := .get
        url := { (sample 3).base with path := .segments ["v1", "services"] }
        peer := none
        headers := (sample 3).headers ++ [("authorization", "Basic aWQ6c2VjcmV0")]
        body := none
        timeout := .ofSecs 60 }
    (((sample 3).reporting [7, 8]).send Network.scripted.logged call s).1 =
      .error (.retriesExhausted 3 (.http 500 "")) ∧
    (((sample 3).reporting [7, 8]).send Network.scripted.logged call s).2.state.2 =
      [.sent q .timedOut, .paused (.ofMillis 100), .sent q (.answered 503 []),
        .paused (.ofMillis 200), .sent q (.answered 500 [])] ∧
    (((sample 3).reporting [7, 8]).send Network.scripted.logged call s).2.reports =
      [(7, ⟨"GET", "/v1/services", .retriesExhausted 3 (.http 500 "")⟩)] := by
  intro call s q
  obtain ⟨decoded, -, sent, -, -, reported⟩ :=
    send_follows_policy (sample 3) [7, 8] Network.scripted call s
  have ready : (sample 3).prepare ⟨(sample 3).base, none⟩ (.basic "id" "secret") call.request =
      .ok q := by decide +kernel
  obtain ⟨k, low, high, before, final, log, received⟩ := (sent _ _ rfl rfl).2 q ready
  have last : k = 3 := by
    by_contra early
    have high : k ≤ 3 := high
    obtain rfl | rfl : k = 1 ∨ k = 2 := by omega
    · exact absurd (final (by decide)) (by decide)
    · exact absurd (final (by decide)) (by decide)
  subst last
  rw [received] at decoded
  rw [decoded] at reported
  exact ⟨decoded, log.trans (by decide +kernel), reported⟩

end Transport

end TrafficTrace
