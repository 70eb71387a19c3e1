import TrafficTrace.Proofs.Transport.Retrying
import TrafficTrace.Transport.Calls

/-!
# What is counted and what is reported

A call is counted before its answer is read, and a failure is reported after that. So every failed call
is reported, and the counts agree with the reports but for the calls whose answer came and could not be
read: these are reported as failures and counted as successes.
-/
namespace TrafficTrace

variable {ρ σ α : Type}

/-! ### Counts -/

namespace Metrics

/-- The counts of an operation, which are zero before its first call. -/
def tally (m : Metrics) (operation : String) : CallMetrics := (m.call? operation).getD .empty

theorem tally_recordCall (m : Metrics) (operation : String) (took : Duration) (ok : Bool)
    (name : String) :
    (m.recordCall operation took ok).tally name =
      if operation = name then (m.tally name).record took ok else m.tally name := by
  have found := Keyed.lookup_insert operation ((m.tally operation).record took ok) m.calls name
  change ((m.recordCall operation took ok).calls.lookup name).getD .empty = _
  by_cases same : operation = name
  · subst same
    rw [if_pos rfl] at found ⊢
    exact congrArg (·.getD .empty) found
  · rw [if_neg (Ne.symm same)] at found
    rw [if_neg same]
    exact congrArg (·.getD .empty) found

end Metrics

/-- How a call ended. -/
structure SentCall where
  operation : String
  /-- Whether a body was received. -/
  answered : Bool
  /-- The failure that the caller was given. -/
  failure : Option FailureReport
  /-- Without a body there is nothing else to give. -/
  failed_of_unanswered : answered = false → failure.isSome = true

namespace SentCall

def failed (r : SentCall) : Bool := r.failure.isSome

def succeeded (r : SentCall) : Bool := !r.failed

def unanswered (r : SentCall) : Bool := !r.answered

/-- An answer came, and the caller was given a failure. -/
def unread (r : SentCall) : Bool := r.answered && r.failed

/-- How many of the calls of an operation satisfy a condition. -/
def count (operation : String) (p : SentCall → Bool) (rs : List SentCall) : Nat :=
  rs.countP fun r => r.operation = operation && p r

theorem count_cons (operation : String) (p : SentCall → Bool) (r : SentCall)
    (rs : List SentCall) :
    count operation p (r :: rs) =
      count operation p rs + if r.operation = operation then (p r).toNat else 0 := by
  rw [count, List.countP_cons, count]
  by_cases own : r.operation = operation <;> cases p r <;> simp [own]

/-- Conditions that add up for each call add up for all. -/
theorem count_add {p q both : SentCall → Bool}
    (each : ∀ r, (p r).toNat + (q r).toNat = (both r).toNat) (operation : String)
    (rs : List SentCall) :
    count operation p rs + count operation q rs = count operation both rs := by
  induction rs with
  | nil => rfl
  | cons r rs ih =>
    have here := each r
    rw [count_cons, count_cons, count_cons, ← ih]
    split <;> omega

theorem count_failed (operation : String) (rs : List SentCall) :
    count operation unanswered rs + count operation unread rs = count operation failed rs := by
  apply count_add
  intro r
  have forced := r.failed_of_unanswered
  rw [unanswered, unread, failed]
  cases answer : r.answered with
  | false => simp [forced answer]
  | true => simp

theorem count_answered (operation : String) (rs : List SentCall) :
    count operation succeeded rs + count operation unread rs = count operation answered rs := by
  apply count_add
  intro r
  have forced := r.failed_of_unanswered
  rw [succeeded, unread, failed]
  cases answer : r.answered with
  | false => simp [forced answer]
  | true => cases r.failure <;> rfl

end SentCall

namespace Transport

/-- A call with its type of answers. -/
structure AnyCall where
  Answer : Type
  call : ApiCall Answer

/-- The failure in a result, as it is reported. -/
def failureOf (r : ApiRequest) : Except TransportError α → Option FailureReport
  | .ok _ => none
  | .error e => some ⟨r.method.name, r.path, e⟩

/-- How a call ends that is made in a given state. -/
def recordOf (t : Transport ρ) (n : Network σ) (call : ApiCall α) (s : Observed ρ σ) :
    SentCall where
  operation := call.request.operation
  answered := (t.exchange n call.request s.state).1.toOption.isSome
  failure := failureOf call.request (t.send n call s).1
  failed_of_unanswered none := by
    rw [send]
    dsimp only
    cases received : (t.exchange n call.request s.state).1 with
    | error e => rfl
    | ok body =>
      rw [received] at none
      cases none

/-- Calls one after the other, with the way in which each of them ended. -/
def sendAll (t : Transport ρ) (n : Network σ) :
    List AnyCall → Observed ρ σ → List SentCall × Observed ρ σ
  | [], s => ([], s)
  | c :: cs, s =>
    let (rs, after) := sendAll t n cs (t.send n c.call s).2
    (t.recordOf n c.call s :: rs, after)

variable (t : Transport ρ) (n : Network σ)

/-- A call is unread when its body came and could not be decoded. -/
theorem unread_recordOf_iff (call : ApiCall α) (s : Observed ρ σ) :
    (t.recordOf n call s).unread = true ↔
      ∃ body e, (t.exchange n call.request s.state).1 = .ok body ∧
        decodeBody call.answer body = .error e := by
  change ((t.exchange n call.request s.state).1.toOption.isSome && (failureOf call.request
    ((t.exchange n call.request s.state).1.bind (decodeBody call.answer))).isSome) = true ↔ _
  cases (t.exchange n call.request s.state).1 with
  | error e => simp [Except.toOption]
  | ok body =>
    cases decoded : decodeBody call.answer body <;>
      simp [Except.toOption, Except.bind, failureOf, decoded]

theorem reports_send (call : ApiCall α) (s : Observed ρ σ) :
    (t.send n call s).2.reports =
      s.reports ++ (t.recordOf n call s).failure.toList.flatMap t.reporter.report := by
  change _ = s.reports ++ (failureOf call.request (t.send n call s).1).toList.flatMap _
  rw [send]
  dsimp only
  cases Except.bind (t.exchange n call.request s.state).1 (decodeBody call.answer) <;>
    simp [failureOf]

theorem metrics_send (call : ApiCall α) (s : Observed ρ σ) :
    ∃ took, (t.send n call s).2.metrics =
      s.metrics.recordCall call.request.operation took (t.recordOf n call s).answered :=
  ⟨_, rfl⟩

/-- The failures are reported in the order of the calls. -/
theorem reports_sendAll (calls : List AnyCall) (s : Observed ρ σ) :
    (t.sendAll n calls s).2.reports = s.reports ++
      ((t.sendAll n calls s).1.filterMap (·.failure)).flatMap t.reporter.report := by
  induction calls generalizing s with
  | nil => simp [sendAll]
  | cons c cs ih =>
    rw [sendAll]
    dsimp only
    rw [ih, reports_send, List.append_assoc, List.filterMap_cons]
    cases (t.recordOf n c.call s).failure <;> simp

/-- The counts tell the calls that were answered from those that were not. -/
theorem tally_sendAll (calls : List AnyCall) (s : Observed ρ σ) (operation : String) :
    let records := (t.sendAll n calls s).1
    let before := s.metrics.tally operation
    let now := (t.sendAll n calls s).2.metrics.tally operation
    now.failures = before.failures + SentCall.count operation SentCall.unanswered records ∧
      now.successes = before.successes + SentCall.count operation SentCall.answered records := by
  induction calls generalizing s with
  | nil => exact ⟨rfl, rfl⟩
  | cons c cs ih =>
    intro records before now
    obtain ⟨failures, successes⟩ := ih (t.send n c.call s).2
    obtain ⟨took, counted⟩ := t.metrics_send n c.call s
    have records_eq : records = t.recordOf n c.call s :: (t.sendAll n cs (t.send n c.call s).2).1 :=
      rfl
    have now_eq : now = (t.sendAll n cs (t.send n c.call s).2).2.metrics.tally operation := rfl
    have same : (t.recordOf n c.call s).operation = c.call.request.operation := rfl
    rw [counted, Metrics.tally_recordCall] at failures successes
    rw [now_eq, failures, successes, records_eq, SentCall.count_cons, SentCall.count_cons,
      SentCall.unanswered, same]
    split <;> cases (t.recordOf n c.call s).answered <;> simp [CallMetrics.record, before] <;> omega

/-- Over any calls and answers, every failure that a caller is given is reported once. The counts of an
operation agree with that, except that each call whose body came and could not be decoded is counted as
a success and not as a failure. -/
theorem failures_reported_and_counted (t : Transport ρ) (n : Network σ) :
    (∀ (α : Type) (call : ApiCall α) (s : Observed ρ σ),
      (t.recordOf n call s).unread = true ↔
        ∃ body e, (t.exchange n call.request s.state).1 = .ok body ∧
          decodeBody call.answer body = .error e) ∧
    ∀ (calls : List AnyCall) (s : Observed ρ σ),
      let records := (t.sendAll n calls s).1
      let after := (t.sendAll n calls s).2
      after.reports = s.reports ++ (records.filterMap (·.failure)).flatMap t.reporter.report ∧
      ∀ operation,
        let failed := SentCall.count operation SentCall.failed records
        let succeeded := SentCall.count operation SentCall.succeeded records
        let unread := SentCall.count operation SentCall.unread records
        let before := s.metrics.tally operation
        let now := after.metrics.tally operation
        now.failures + unread = before.failures + failed ∧
          now.successes = before.successes + succeeded + unread ∧
          (now.failures = before.failures + failed ↔ unread = 0) := by
  refine ⟨fun _ call s => t.unread_recordOf_iff n call s, fun calls s => ?_⟩
  refine ⟨t.reports_sendAll n calls s, fun operation => ?_⟩
  intro failed succeeded unread before now
  obtain ⟨failures, successes⟩ := t.tally_sendAll n calls s operation
  have all_failed := SentCall.count_failed operation (t.sendAll n calls s).1
  have all_answered := SentCall.count_answered operation (t.sendAll n calls s).1
  change now.failures = before.failures + _ at failures
  change now.successes = before.successes + _ at successes
  change _ + unread = failed at all_failed
  change succeeded + unread = _ at all_answered
  refine ⟨?_, ?_, ?_⟩ <;> omega

/-- The services are listed, and the answer has status 200 and the body `not json`: the caller is given
a failure and the receiver a report, but the metrics have a success and no failure. -/
theorem unread_answer_counted_as_success :
    let operation := "directory.list_services"
    let request : ApiRequest := .get operation "/v1/services"
    let call : AnyCall := ⟨List ServiceSummary, request, ServiceCall.listServices.answer⟩
    let answer : Exchange := .answered 200 [0x6e, 0x6f, 0x74, 0x20, 0x6a, 0x73, 0x6f, 0x6e]
    let run := ((sample 3).reporting [7]).sendAll Network.scripted [call] ⟨[answer], .empty, []⟩
    ServiceCall.listServices.request? = some request ∧
      SentCall.count operation SentCall.failed run.1 = 1 ∧
      SentCall.count operation SentCall.succeeded run.1 = 0 ∧ run.2.reports.length = 1 ∧
      (run.2.metrics.tally operation).failures = 0 ∧
      (run.2.metrics.tally operation).successes = 1 := by
  decide +kernel

end Transport

end TrafficTrace
