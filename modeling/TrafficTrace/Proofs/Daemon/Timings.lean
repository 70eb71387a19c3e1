import TrafficTrace.Daemon.Session
import TrafficTrace.Proofs.Config.Layering
import TrafficTrace.Transport.Calls

/-!
# Sums of a daemon's timings

A daemon adds to the timeout of its polls: its poller waits a grace longer, and both long polls give
the request ten seconds more. A sum of two durations need not be a duration. That a configuration is
accepted says that its timings are positive and in order and nothing about their size.
-/
namespace TrafficTrace

namespace Duration

theorem isSome_add?_iff {a b : Duration} : (a.add? b).isSome ↔ a.nanos + b.nanos ≤ limit := by
  rw [Option.isSome_iff_ne_none, ne_eq, add?_eq_none_iff, Nat.not_lt]

theorem isSome_add?_of_le {a b c : Duration} (le : b ≤ c) (sum : (a.add? c).isSome) :
    (a.add? b).isSome := by
  have shorter : b.nanos ≤ c.nanos := le
  have fits := isSome_add?_iff.mp sum
  apply isSome_add?_iff.mpr
  omega

/-- A sum with whole seconds is a duration when the seconds can be added. -/
theorem isSome_add?_ofSecs_iff (d : Duration) {n : Nat} (small : n < UInt64.size) :
    (d.add? (ofSecs n)).isSome ↔ d.secs + n < UInt64.size := by
  have bound : limit = UInt64.size * 1000000000 - 1 := rfl
  have exact : (ofSecs n).nanos = n * 1000000000 := by
    change min (n * 1000000000) limit = n * 1000000000
    omega
  rw [isSome_add?_iff, exact, secs]
  omega

end Duration

namespace DaemonConfig

/-- The poller's deadline and the timeouts of both kinds of long poll are durations. -/
structure Measurable (c : DaemonConfig) : Prop where
  deadline : ∀ service, (LongPoller.mk service c.pollTimeout c.pollGrace).deadline?.isSome
  activeTraces : ∀ service known,
    (ServiceCall.activeTraces service known c.pollTimeout).request?.isSome
  deactivation : ∀ service trace,
    (ServiceCall.deactivation service trace c.pollTimeout).request?.isSome

/-- The longer of both graces decides. -/
theorem measurable_iff (c : DaemonConfig) :
    c.Measurable ↔ (c.pollTimeout.add? (max c.pollGrace ServiceCall.grace)).isSome := by
  constructor
  · intro h
    have poll := Duration.isSome_add?_iff.mp (h.deadline default)
    have call := h.activeTraces default []
    rw [ServiceCall.request?, Option.isSome_map, ServiceCall.patience?,
      Duration.isSome_add?_iff] at call
    rw [Duration.isSome_add?_iff, Duration.nanos_max]
    change c.pollTimeout.nanos + c.pollGrace.nanos ≤ Duration.limit at poll
    omega
  · intro sum
    have longer : (max c.pollGrace ServiceCall.grace).nanos =
        max c.pollGrace.nanos ServiceCall.grace.nanos := Duration.nanos_max _ _
    have own : c.pollGrace ≤ max c.pollGrace ServiceCall.grace := by
      rw [Duration.le_def, longer]
      omega
    have calls : ServiceCall.grace ≤ max c.pollGrace ServiceCall.grace := by
      rw [Duration.le_def, longer]
      omega
    have patience := Duration.isSome_add?_of_le calls sum
    constructor
    · intro service
      exact Duration.isSome_add?_of_le own sum
    · intro service known
      rw [ServiceCall.request?, Option.isSome_map]
      exact patience
    · intro service trace
      rw [ServiceCall.request?, Option.isSome_map]
      exact patience

theorem validate_eq_ok_iff (c : DaemonConfig) :
    c.validate = .ok () ↔ c.pollTimeout ≠ .zero ∧ c.heartbeatInterval ≠ .zero ∧
      c.errorBackoff ≠ .zero ∧ c.errorBackoff ≤ c.maxErrorBackoff := by
  rw [validate, Duration.le_def, ← Nat.not_lt]
  by_cases poll : c.pollTimeout = .zero
  · simp [poll]
  by_cases heartbeat : c.heartbeatInterval = .zero
  · simp [poll, heartbeat]
  by_cases backoff : c.errorBackoff = .zero
  · simp [poll, heartbeat, backoff]
  · simp [poll, heartbeat, backoff, Duration.lt_def]

end DaemonConfig

theorem Settings.validate_eq_ok_iff (s : Settings) :
    s.validate = .ok () ↔ s.checks.find? (·.2.1) = none := by
  rw [validate]
  cases s.checks.find? (·.2.1) with
  | none => simp
  | some check => simp

/-- Settings are checked for what a daemon is checked for. -/
theorem Settings.validate_daemon {s : Settings} (accepted : s.validate = .ok ()) :
    s.daemon.validate = .ok () := by
  have passes := List.find?_eq_none.mp (s.validate_eq_ok_iff.mp accepted)
  simp only [checks, List.mem_cons, List.not_mem_nil, or_false, forall_eq_or_imp, forall_eq,
    decide_eq_true_eq] at passes
  obtain ⟨-, -, -, -, -, poll, heartbeat, backoff, ordered, -⟩ := passes
  exact s.daemon.validate_eq_ok_iff.mpr ⟨poll, heartbeat, backoff, Nat.not_lt.mp ordered⟩

/-- No source sets the grace of the poller, so it is that of the requests. -/
theorem Layers.measurable_merge_iff (l : Layers) :
    l.merge.daemon.Measurable ↔ l.merge.daemon.pollTimeout.secs + 10 < UInt64.size := by
  have unset : l.highest .pollGrace = none := by
    rw [highest, List.findSome?_eq_none_iff]
    intro src _
    cases src <;> rfl
  have grace : l.merge.daemon.pollGrace = ServiceCall.grace := by
    rw [l.merge_describes.pollGrace, unset]
    rfl
  have same : max ServiceCall.grace ServiceCall.grace = Duration.ofSecs 10 := by decide
  rw [DaemonConfig.measurable_iff, grace, same]
  exact Duration.isSome_add?_ofSecs_iff _ (by decide)

namespace DaemonConfig

/-- What is accepted, and, apart from that, when the sums can be computed: the timeout has to leave
room for the longer grace. Accepted settings are accepted by the daemon, and of them those with a
timeout of less than `2^64 - 10` seconds leave that room. -/
theorem accepted_and_measurable (c : DaemonConfig) (l : Layers) :
    ((c.validate = .ok () ↔ c.pollTimeout ≠ .zero ∧ c.heartbeatInterval ≠ .zero ∧
        c.errorBackoff ≠ .zero ∧ c.errorBackoff ≤ c.maxErrorBackoff) ∧
      (c.Measurable ↔
        c.pollTimeout.nanos + max c.pollGrace.nanos ServiceCall.grace.nanos ≤ Duration.limit)) ∧
    (l.merge.validate = .ok () → l.merge.daemon.validate = .ok ()) ∧
      (l.merge.daemon.Measurable ↔ l.merge.daemon.pollTimeout.secs + 10 < UInt64.size) := by
  refine ⟨⟨c.validate_eq_ok_iff, ?_⟩, Settings.validate_daemon, l.measurable_merge_iff⟩
  rw [measurable_iff, Duration.isSome_add?_iff, Duration.nanos_max]

theorem accepted_and_measurable_standard :
    (Layers.merge ⟨none, none, none, .none, .none⟩).validate = .ok () ∧
      (Layers.merge ⟨none, none, none, .none, .none⟩).daemon.validate = .ok () ∧
      (Layers.merge ⟨none, none, none, .none, .none⟩).daemon.Measurable := by
  have accepted : (Layers.merge ⟨none, none, none, .none, .none⟩).validate = .ok () :=
    (Settings.validate_eq_ok_iff _).mpr (by decide +kernel)
  obtain ⟨-, valid, measurable⟩ :=
    accepted_and_measurable .standard ⟨none, none, none, .none, .none⟩
  exact ⟨accepted, valid accepted, measurable.mpr (by decide +kernel)⟩

/-- A configuration and a settings file with the longest timeout in whole seconds are accepted. -/
theorem longest_timeout_not_measurable :
    (∃ c, (Json.decodeText record.decode
        "\x7b\"pollTimeout\":18446744073709551615\x7d").toOption = some c ∧
      c.validate = .ok () ∧ ¬ c.Measurable) ∧
    ∃ f, (Json.decodeText ConfigFile.record.decode
        "\x7b\"daemon\":\x7b\"pollTimeoutSecs\":18446744073709551615\x7d\x7d").toOption = some f ∧
      (Layers.merge ⟨some f, none, none, .none, .none⟩).validate = .ok () ∧
      ¬ (Layers.merge ⟨some f, none, none, .none, .none⟩).daemon.Measurable := by
  constructor
  · refine ⟨{ standard with pollTimeout := .ofSecs 18446744073709551615 }, ?_, ?_, ?_⟩
    · decide +kernel
    · exact (validate_eq_ok_iff _).mpr (by decide)
    · rw [measurable_iff]
      decide
  · refine ⟨{ ConfigFile.empty with
      daemon := some ⟨some 18446744073709551615, none, none, none⟩ }, ?_, ?_, ?_⟩
    · decide +kernel
    · exact (Settings.validate_eq_ok_iff _).mpr (by decide +kernel)
    · rw [Layers.measurable_merge_iff]
      decide +kernel

end DaemonConfig

end TrafficTrace
