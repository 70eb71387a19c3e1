import TrafficTrace.Program.Upload
import TrafficTrace.Proofs.Program.EventLines
import TrafficTrace.Proofs.Program.Lookup
import TrafficTrace.Proofs.Sync.Overlay
import TrafficTrace.Proofs.Sync.Refusal

/-!
# Uploads from a file that breaks off

A line that holds no event ends the reading of a file. An upload that reads the file first does not
begin; one that sends events as they are read delivers those before the line and fails then.
-/
namespace TrafficTrace

open Backend Network EventLines

variable {σ : Type}

namespace Upload

theorem filterMap_schedule (k : Feed.Ticker) (close : Instant) (first : Nat)
    (timed : List (Instant × Event)) :
    (Feed.schedule k close first timed).filterMap EventSource.eventOf = timed.map Prod.snd := by
  have quiet (t : Instant) (first : Nat) :
      (k.between first t).filterMap EventSource.eventOf = [] := by
    rw [Feed.Ticker.between, List.filterMap_map]
    exact List.filterMap_eq_nil_iff.mpr fun _ _ => rfl
  induction timed generalizing first with
  | nil => exact quiet close first
  | cons q rest ih =>
    obtain ⟨t, e⟩ := q
    have event : EventSource.eventOf (t, .event e) = some e := rfl
    rw [Feed.schedule, List.filterMap_append, quiet, List.nil_append,
      List.filterMap_cons_some event, ih, List.map_cons]

/-- What is not refused delivers the events that pass, if every call is answered. -/
theorem delivered_of_answered {b : Backend σ} {setting : UploadSetting} {request : UploadRequest}
    {r : Resolver} {s : σ} {source : EventSource}
    (welcome : ¬ Refused b setting request r (.start s))
    (answered : ∀ x ∈ (source.upload b setting request r (.start s)).state.calls, x.fault = none) :
    ∃ rules summary, Delivered setting request source.events []
      (source.upload b setting request r (.start s)) rules summary := by
  rcases refused_or_failed_or_delivered source with refused | ⟨sent, log, x, hx, fault⟩ | delivered
  · exact absurd refused welcome
  · exact absurd (answered x (log ▸ List.mem_append_right _ hx)) fault
  · exact delivered

variable {setting : UploadSetting} {request : UploadRequest} {events : List Event}
  {o : UploadOutcome (Stamped σ)} {rules : ExclusionRules} {summary : UploadSummary}

theorem Delivered.sent (h : Delivered setting request events [] o rules summary) :
    List.Forall₂ Event.SentAs (events.filter (passes request rules))
      (acceptedEvents o.state.calls) := by
  obtain ⟨calls, log, accounted⟩ := h.accounted
  rw [log, List.nil_append]
  exact accounted.delivered

theorem Delivered.submitted (h : Delivered setting request events [] o rules summary) :
    summary.submitted = (events.filter (passes request rules)).length := by
  obtain ⟨calls, -, accounted⟩ := h.accounted
  rw [accounted.submitted, accounted.forwarded, accounted.delivered.length_eq]

end Upload

namespace Program

variable {w : Surroundings} {l : Link σ} {verbose : Nat} {a : UploadArguments} {s s' : State σ}
  {base : Option SpecId} {before : List (Option String)} {fault : EventFault}

/-- The lookup of the spec that a new trace is to extend. -/
def baseSpec (l : Link σ) (a : UploadArguments) : Step σ (Option SpecId) :=
  a.baseSpec.mapM fun name => do
    let spec ← findSpec l (← serviceId l a.service) name
    return spec.id

/-- What is in the file of the events. -/
def content (w : Surroundings) (a : UploadArguments) : Except FileError ByteArray :=
  if a.events = "-" then .ok w.input else w.files.read (FilePath.follow w.directory a.events)

def readEvents (w : Surroundings) (a : UploadArguments) : List Event × Option EventFault :=
  ofFile a.events (content w a)

def setting (w : Surroundings) (l : Link σ) (s : State σ) : UploadSetting :=
  ⟨w.client, l.settings.batch, l.network.now s.observed.state, w.fresh 0⟩

/-- The upload of what was read, as the program makes it. -/
def uploaded (w : Surroundings) (l : Link σ) (a : UploadArguments) (base : Option SpecId)
    (s : State σ) : FileUpload (Observed Unit σ) :=
  uploadEvents (l.transport.backend l.network) (setting w l s) (requestOf a l.settings base)
    a.stream (fun i => w.fresh (i + 1)) (readEvents w a) s.resolver s.observed

/-- Events as they arrive while they are read. -/
def arriving (setting : UploadSetting) (fresh : Nat → Uuid) (events : List Event) : EventSource :=
  .live fresh (Feed.schedule ⟨setting.policy.tickInterval.nanos, 1⟩ 0 0
    (events.map fun e => (0, e)))

/-- A file whose reading is broken off by the line after the lines `before`. -/
def BrokenAfter (w : Surroundings) (a : UploadArguments) (before : List (Option String))
    (fault : EventFault) : Prop :=
  ∃ bytes line after, content w a = .ok bytes ∧ lines bytes.toList = before ++ line :: after ∧
    (∀ earlier ∈ before, Readable earlier) ∧ BreaksOff a.events (before.length + 1) line fault

theorem BrokenAfter.readEvents (h : BrokenAfter w a before fault) :
    readEvents w a = (before.filterMap eventOn?, some fault) := by
  obtain ⟨bytes, line, after, held, split, readable, broken⟩ := h
  rw [Nat.add_comm] at broken
  rw [Program.readEvents, held, ofFile, split]
  exact read_of_breaksOff readable broken after

theorem events_arriving (setting : UploadSetting) (fresh : Nat → Uuid) (events : List Event) :
    (arriving setting fresh events).events = events := by
  rw [arriving, EventSource.events, Upload.filterMap_schedule, List.map_map]
  exact List.map_id _

/-! ### The steps of the command -/

theorem upload_of_baseSpec_error {e : Report} (h : (baseSpec l a).run s = (.error e, s')) :
    (upload w l verbose a).run s = (.error e, s') := by
  rw [baseSpec] at h
  rw [upload, run_bind, h]

/-- The state that an upload leaves to the command, with its run counted if it was reached. -/
def after (l : Link σ) (s : State σ) (o : FileUpload (Observed Unit σ)) : State σ :=
  let took := Duration.ofNanos (l.network.now o.state.state - l.network.now s.observed.state)
  let metrics := match o.upload with
    | some r => Upload.account took r o.state.metrics
    | none => o.state.metrics
  { s with resolver := o.resolver, observed := { o.state with metrics } }

/-- A failed upload is reported, and its state remains. -/
theorem upload_of_failed (verbose : Nat) {report : Report}
    (h : (baseSpec l a).run s = (.ok base, s'))
    (failed : (uploaded w l a base s').result = .error report) :
    (upload w l verbose a).run s = (.error report, after l s' (uploaded w l a base s')) := by
  rw [baseSpec] at h
  rw [uploaded, setting, readEvents, content] at failed
  rw [upload, run_bind, h]
  dsimp only
  rw [run_bind, run_get]
  dsimp only
  rw [run_bind, run_set]
  dsimp only
  rw [run_bind, failed]
  rfl

/-! ### Reading first -/

/-- Nothing is uploaded from a file that breaks off. -/
theorem uploaded_of_broken (atOnce : a.stream = false) (broken : BrokenAfter w a before fault)
    (l : Link σ) (base : Option SpecId) (s : State σ) :
    uploaded w l a base s = ⟨.error fault.report, none, s.resolver, s.observed⟩ := by
  rw [uploaded, broken.readEvents, atOnce]
  rfl

theorem onlyReads_baseSpec (settings : Settings) (t : Transport Unit) (n : Network σ)
    (a : UploadArguments) : OnlyReads (baseSpec ⟨settings, t, n.logged⟩ a) := by
  rw [baseSpec]
  cases a.baseSpec with
  | none => exact onlyReads_pure none
  | some name =>
    have found : OnlyReads (do
        let spec ← findSpec ⟨settings, t, n.logged⟩ (← serviceId ⟨settings, t, n.logged⟩ a.service)
          name
        return spec.id) :=
      (onlyReads_serviceId settings t n a.service).bind fun service =>
        (onlyReads_findSpec settings t n service name).bind fun spec => onlyReads_pure spec.id
    exact found.bind fun spec => onlyReads_pure (some spec)

/-- The command fails, and has done nothing but look up the spec. -/
theorem upload_of_broken (atOnce : a.stream = false) (broken : BrokenAfter w a before fault)
    (l : Link σ) (verbose : Nat) (s : State σ) :
    (upload w l verbose a).run s = match (baseSpec l a).run s with
      | (.ok _, s') => (.error fault.report, s')
      | (.error e, s') => (.error e, s') := by
  rcases looked : (baseSpec l a).run s with ⟨e | base, s'⟩
  · exact upload_of_baseSpec_error looked
  · have none := uploaded_of_broken atOnce broken l base s'
    rw [upload_of_failed verbose looked (by rw [none]), none]
    rfl

/-! ### Sending while reading -/

/-- Sending events as they are read is an upload of what arrives, and a line that broke the reading
off is reported after it. -/
theorem uploadEvents_stream (b : Backend σ) (setting : UploadSetting) (request : UploadRequest)
    (fresh : Nat → Uuid) (read : List Event × Option EventFault) (r : Resolver) (s : σ) :
    let o := (arriving setting fresh read.1).upload b setting request r (.start s)
    let done := uploadEvents b setting request true fresh read r s
    done.state = o.state.state ∧
      ∀ summary, o.result = .ok summary → ∀ fault, read.2 = some fault →
        done.result = .error (fault.report.within ("Stopped after " ++
          toString summary.submitted ++ " events were uploaded to trace " ++ summary.traceName)) := by
  intro o done
  have same : Upload.live b setting request fresh (fun _ s => s)
      (Feed.schedule ⟨setting.policy.tickInterval.nanos, 1⟩ 0 0 (read.1.map fun e => (0, e))) r s =
        o.seen Stamped.state :=
    Upload.live_overlaid (stamped_overlays b) setting request fresh _ Stamped.wake
      (fun _ _ => rfl) _ r (.start s)
  simp only [done, uploadEvents, if_true, same]
  refine ⟨rfl, ?_⟩
  intro summary ok fault stopped
  have ok : (o.seen Stamped.state).result = .ok summary := ok
  simp only [ok, stopped]

/-- The upload of a stream, with a log of the calls that it makes. -/
def streamed (w : Surroundings) (l : Link σ) (a : UploadArguments) (base : Option SpecId)
    (s : State σ) : UploadOutcome (Stamped (Observed Unit σ)) :=
  (arriving (setting w l s) (fun i => w.fresh (i + 1)) (readEvents w a).1).upload
    (l.transport.backend l.network) (setting w l s) (requestOf a l.settings base) s.resolver
    (.start s.observed)

/-- The command has delivered the events before the line that breaks the file off, and fails. -/
theorem upload_of_broken_stream (stream : a.stream = true) (broken : BrokenAfter w a before fault)
    (looked : (baseSpec l a).run s = (.ok base, s'))
    (welcome : ¬ Upload.Refused (l.transport.backend l.network) (setting w l s')
      (requestOf a l.settings base) s'.resolver (.start s'.observed))
    (answered : ∀ x ∈ (streamed w l a base s').state.calls, x.fault = none) (verbose : Nat) :
    ∃ rules,
      let request := requestOf a l.settings base
      let wanted := (before.filterMap eventOn?).filter (Upload.passes request rules)
      let ended := (upload w l verbose a).run s
      ExclusionRules.compile request.hostExclusions request.pathExclusions = .ok rules ∧
      List.Forall₂ Event.SentAs wanted (acceptedEvents (streamed w l a base s').state.calls) ∧
      ended.2.observed.state = (streamed w l a base s').state.state.state ∧
      ended.1 = .error (fault.report.within ("Stopped after " ++ toString wanted.length ++
        " events were uploaded to trace " ++ Upload.traceName (setting w l s') request)) := by
  have read := broken.readEvents
  have passed : (arriving (setting w l s') (fun i => w.fresh (i + 1)) (readEvents w a).1).events =
      before.filterMap eventOn? := by
    rw [events_arriving, read]
  obtain ⟨rules, summary, delivered⟩ := Upload.delivered_of_answered welcome answered
  have sent := delivered.sent
  have count := delivered.submitted
  rw [passed] at sent count
  obtain ⟨state, result⟩ := uploadEvents_stream (l.transport.backend l.network) (setting w l s')
    (requestOf a l.settings base) (fun i => w.fresh (i + 1)) (readEvents w a) s'.resolver
    s'.observed
  have failed := result summary delivered.result fault (by rw [read])
  rw [← stream, count, delivered.name] at failed
  rw [← stream] at state
  refine ⟨rules, delivered.compiled, sent, ?_, ?_⟩
  · rw [upload_of_failed verbose looked failed]
    change (uploaded w l a base s').state.state = _
    exact congrArg Observed.state state
  · rw [upload_of_failed verbose looked failed]

/-- A file of events is read up to the first line that is neither blank nor an event; this line is
reported under its number among all lines, and the events are those of the lines before it. Where the
events are read first, the command then fails with nothing done but the lookup of a spec, for which only
requests to read are sent, and neither a creation nor an append is one. Where they are sent as they are
read, the events before the line that pass the filters are delivered, however they arrive, and the
command fails after that; this takes an upload that is not refused and calls that are answered. -/
theorem broken_file_uploads_what_precedes (σ : Type) :
    (∀ file lines, (read file 1 lines).2 = none ↔ ∀ line ∈ lines, Readable line) ∧
    (∀ file lines, (∀ line ∈ lines, Readable line) →
      read file 1 lines = (lines.filterMap eventOn?, none)) ∧
    (∀ file before line after fault, (∀ earlier ∈ before, Readable earlier) →
      BreaksOff file (before.length + 1) line fault →
      read file 1 (before ++ line :: after) = (before.filterMap eventOn?, some fault)) ∧
    (∀ w a before fault, BrokenAfter w a before fault → a.stream = false →
      (∀ (l : Link σ) verbose s, (upload w l verbose a).run s = match (baseSpec l a).run s with
        | (.ok _, s') => (.error fault.report, s')
        | (.error e, s') => (.error e, s')) ∧
      ∀ settings t (n : Network σ) verbose s, Network.OnlyReads s.observed.state.2
        ((upload w ⟨settings, t, n.logged⟩ verbose a).run s).2.observed.state.2) ∧
    (∀ service request r, (ServiceCall.createTrace service request).request? = some r →
      r.method = .post) ∧
    (∀ service trace batch r, (ServiceCall.appendEvents service trace batch).request? = some r →
      r.method = .post) ∧
    (∀ (b : Backend σ) setting request r s (source : EventSource),
      ¬ Upload.Refused b setting request r (.start s) →
      let o := source.upload b setting request r (.start s)
      (∀ x ∈ o.state.calls, x.fault = none) →
      ∃ rules, ExclusionRules.compile request.hostExclusions request.pathExclusions = .ok rules ∧
        List.Forall₂ Event.SentAs (source.events.filter (Upload.passes request rules))
          (acceptedEvents o.state.calls)) ∧
    ∀ w (l : Link σ) a before fault base s s', BrokenAfter w a before fault → a.stream = true →
      (baseSpec l a).run s = (.ok base, s') →
      let b := l.transport.backend l.network
      let request := requestOf a l.settings base
      ¬ Upload.Refused b (setting w l s') request s'.resolver (.start s'.observed) →
      let o := streamed w l a base s'
      (∀ x ∈ o.state.calls, x.fault = none) → ∀ verbose, ∃ rules,
        let wanted := (before.filterMap eventOn?).filter (Upload.passes request rules)
        let ended := (upload w l verbose a).run s
        ExclusionRules.compile request.hostExclusions request.pathExclusions = .ok rules ∧
        List.Forall₂ Event.SentAs wanted (acceptedEvents o.state.calls) ∧
        ended.2.observed.state = o.state.state.state ∧
        ended.1 = .error (fault.report.within ("Stopped after " ++ toString wanted.length ++
          " events were uploaded to trace " ++ Upload.traceName (setting w l s') request)) := by
  refine ⟨fun file lines => read_complete_iff file 1 lines,
    fun file lines readable => read_of_readable readable file 1, ?_, ?_,
    fun _ _ _ => ServiceCall.method_of_create, fun _ _ _ _ => ServiceCall.method_of_append, ?_, ?_⟩
  · intro file before line after fault readable broken
    rw [Nat.add_comm] at broken
    exact read_of_breaksOff readable broken after
  · intro w a before fault broken atOnce
    refine ⟨upload_of_broken atOnce broken, ?_⟩
    intro settings t n verbose s
    have reads := onlyReads_baseSpec settings t n a s
    rw [upload_of_broken atOnce broken]
    rcases looked : (baseSpec ⟨settings, t, n.logged⟩ a).run s with ⟨e | base, s'⟩
    · rw [looked] at reads
      exact reads
    · rw [looked] at reads
      exact reads
  · intro b setting request r s source welcome o answered
    obtain ⟨rules, summary, delivered⟩ := Upload.delivered_of_answered welcome answered
    exact ⟨rules, delivered.compiled, delivered.sent⟩
  · intro w l a before fault base s s' broken stream looked b request welcome o answered verbose
    exact upload_of_broken_stream stream broken looked welcome answered verbose

/-- An event between a blank line and one that is no event, from the standard input: first without the
service being asked for anything, then as a stream. -/
theorem broken_file_uploads_what_precedes_third_line :
    let line := "\x7b\"direction\":\"outbound\",\"kind\":\"request\"," ++
      "\"observedAt\":\"1970-01-01T00:00:00Z\"\x7d"
    let w : Surroundings :=
      ⟨[], fun _ => none, .empty "", none, [], ("\n" ++ line ++ "\nx").toUTF8, .nil,
        fun _ => .nil, 0, fun _ => .epoch⟩
    let a : UploadArguments := ⟨"shop", none, false, [], none, false, [], [], "-", false⟩
    let answers : List Exchange :=
      [.answered 200 ("[\x7b\"id\":\"svc_01010101010101010101010101010101\",\"name\":\"Shop\"\x7d]"
          ).toUTF8.toList,
        .answered 200 ("\x7b\"id\":\"trc_02020202020202020202020202020202\"," ++
          "\"service_id\":\"svc_01010101010101010101010101010101\",\"name\":\"t\"\x7d").toUTF8.toList,
        .answered 200 "\x7b\x7d".toUTF8.toList]
    let sample := Transport.sample 3
    let l : Link (List Exchange) :=
      ⟨.standard, ⟨sample.settings, .nil, .empty, sample.base⟩, .scripted⟩
    let s : State (List Exchange) := ⟨⟨answers, .empty, []⟩, .standard, "", []⟩
    let fault : EventFault := .invalid "-" 3 .malformed
    BrokenAfter w a [some "", some line] fault ∧
      (upload w l 0 a).run s = (.error fault.report, s) ∧
      ((upload w l 0 { a with stream := true }).run s).1 = .error (fault.report.within
        ("Stopped after 1 events were uploaded to trace " ++ TraceName.ofBytes .nil)) := by
  intro line w a answers sample l s fault
  have broken : BrokenAfter w a [some "", some line] fault := by
    refine ⟨w.input, some "x", [], rfl, by decide +kernel, ?_, ?_⟩
    · rintro _ (_ | ⟨_, _ | ⟨_, ⟨⟩⟩⟩)
      · exact .blank "" (by decide)
      · have held : (Json.decodeText Event.decoder line).toOption.isSome = true := by decide +kernel
        cases decoded : Json.decodeText Event.decoder line with
        | error e =>
          rw [decoded] at held
          cases held
        | ok e => exact .event line e decoded
    · exact .malformed "x" .malformed (by decide +kernel) (by decide +kernel)
  obtain ⟨-, -, -, atOnce, -, -, -, live⟩ := broken_file_uploads_what_precedes (List Exchange)
  refine ⟨broken, (atOnce w a _ fault broken rfl).1 l 0 s, ?_⟩
  have welcome : ¬ Upload.Refused (l.transport.backend l.network) (setting w l s)
      (requestOf { a with stream := true } l.settings none) s.resolver (.start s.observed) := by
    intro refused
    cases refused with
    | invalid unreadable =>
      refine unreadable fun field => ?_
      cases field <;> exact nofun
    | unlisted kind name absent =>
      have found : (Upload.serviceFound (l.transport.backend l.network) (setting w l s)
          (requestOf { a with stream := true } l.settings none) s.resolver
          (.start s.observed)).1 = .ok ⟨.fill 1⟩ := by decide +kernel
      rw [found] at absent
      cases absent
    | taken service id served known closed => cases known
  have answered : ∀ x ∈ (streamed w l { a with stream := true } none s).state.calls,
      x.fault = none := by decide +kernel
  obtain ⟨rules, compiled, -, -, ended⟩ := live w l { a with stream := true } _ fault none s s
    broken rfl rfl welcome answered 0
  obtain rfl : (⟨[], []⟩ : ExclusionRules) = rules := Except.ok.inj compiled
  have count : (([some "", some line].filterMap eventOn?).filter (Upload.passes
      (requestOf { a with stream := true } l.settings none) ⟨[], []⟩)).length = 1 := by
    decide +kernel
  rw [count] at ended
  exact ended

end Program

end TrafficTrace
