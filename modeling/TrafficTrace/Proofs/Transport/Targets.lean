import TrafficTrace.Proofs.Transport.Resubmission
import TrafficTrace.Proofs.Url.Joining

/-!
# Where the requests of a call go

The path of a request is made of the base of the transport and of the kind and the identifiers of the
call, which are plain words. Whatever text a caller chose is in the parameters, and these are read
back from the query as they were.
-/
namespace TrafficTrace

variable {ρ σ : Type}

open Url (IsWord isWordChar)

/-- A call without its texts: what is asked of which service, trace or spec. -/
inductive Operation where
  | listServices
  | heartbeat (service : ServiceId)
  | activeTraces (service : ServiceId)
  | deactivation (service : ServiceId) (trace : TraceId)
  | listTraces (service : ServiceId)
  | getTrace (service : ServiceId) (trace : TraceId)
  | createTrace (service : ServiceId)
  | appendEvents (service : ServiceId) (trace : TraceId)
  | createSpec (service : ServiceId)
  | getSpec (service : ServiceId) (spec : SpecId)
  | getSpecByVersion (service : ServiceId)
  | resolveName (service : ServiceId)
  | getSpecDiff (service : ServiceId) (base head : SpecId)
deriving DecidableEq

namespace Operation

/-- The path of an operation under the base. -/
def segments : Operation → List String
  | listServices => ["v1", "services"]
  | heartbeat s => ["v1", "services", s.toText, "heartbeat"]
  | activeTraces s => ["v1", "services", s.toText, "daemon", "long-poll"]
  | deactivation s t => ["v1", "services", s.toText, "traces", t.toText, "long-poll-inactive"]
  | listTraces s => ["v1", "services", s.toText, "traces"]
  | getTrace s t => ["v1", "services", s.toText, "traces", t.toText]
  | createTrace s => ["v1", "services", s.toText, "traces"]
  | appendEvents s t => ["v1", "services", s.toText, "traces", t.toText, "events"]
  | createSpec s => ["v1", "services", s.toText, "specs"]
  | getSpec s i => ["v1", "services", s.toText, "specs", i.toText]
  | getSpecByVersion s => ["v1", "services", s.toText, "spec-versions", "by-label"]
  | resolveName s => ["v1", "services", s.toText, "ids"]
  | getSpecDiff s i j => ["v1", "services", s.toText, "specs", i.toText, "diff", j.toText]

end Operation

namespace ServiceCall

def operation : ServiceCall → Operation
  | listServices => .listServices
  | heartbeat s _ => .heartbeat s
  | activeTraces s _ _ => .activeTraces s
  | deactivation s t _ => .deactivation s t
  | listTraces s _ => .listTraces s
  | getTrace s t => .getTrace s t
  | createTrace s _ => .createTrace s
  | appendEvents s t _ => .appendEvents s t
  | createSpec s _ => .createSpec s
  | getSpec s i => .getSpec s i
  | getSpecByVersion s _ => .getSpecByVersion s
  | resolveName s _ _ => .resolveName s
  | getSpecDiff s i j => .getSpecDiff s i j

/-- The pairs that a call puts into the query. -/
def parameters : ServiceCall → List (String × String)
  | deactivation _ _ timeout => [("timeout_secs", toString timeout.secs)]
  | listTraces _ tags => tags.entries.map fun (key, value) => ("tag", key ++ ":" ++ value)
  | getSpecByVersion _ label => [("label", label)]
  | resolveName _ kind name => [("type", kind.name), ("name", name)]
  | _ => []

theorem pathIn_eq (service : ServiceId) (rest : List String) :
    pathIn service rest = "/" ++ "/".intercalate ("v1" :: "services" :: service.toText :: rest) := by
  rw [pathIn, String.intercalate_cons_cons, String.intercalate_cons_cons,
    String.intercalate_cons_cons]
  simp only [← String.append_assoc]
  rfl

theorem pathIn_joined (service : ServiceId) (a b : String) :
    pathIn service [a ++ "/" ++ b] = pathIn service [a, b] := by
  simp only [pathIn, String.intercalate_cons_cons, String.intercalate_singleton,
    String.append_assoc]

/-- The path of a request is that of its operation, and its query that of the call. -/
theorem request?_eq_some {c : ServiceCall} {r : ApiRequest} (h : c.request? = some r) :
    r.path = "/" ++ "/".intercalate c.operation.segments ∧ r.query = c.parameters := by
  cases c with
  | listServices =>
    cases h
    exact ⟨by decide, rfl⟩
  | activeTraces s known timeout =>
    rw [request?] at h
    obtain ⟨patience, -, rfl⟩ := Option.map_eq_some_iff.mp h
    exact ⟨(pathIn_joined s "daemon" "long-poll").trans (pathIn_eq s _), rfl⟩
  | deactivation s trace timeout =>
    rw [request?] at h
    obtain ⟨patience, -, rfl⟩ := Option.map_eq_some_iff.mp h
    exact ⟨pathIn_eq s _, rfl⟩
  | getSpecByVersion s label =>
    cases h
    exact ⟨(pathIn_joined s "spec-versions" "by-label").trans (pathIn_eq s _), rfl⟩
  | listTraces s | resolveName s | heartbeat s | getTrace s | createTrace s | appendEvents s
  | createSpec s | getSpec s | getSpecDiff s =>
    cases h
    exact ⟨pathIn_eq s _, rfl⟩

end ServiceCall

namespace Id

theorem hexDigit_isWordChar : ∀ n < 16, isWordChar (Text.hexDigit n) = true := by decide

/-- The text of an identifier stands for itself in a path. -/
theorem isWord_toText {k : IdKind} (i : Id k) : IsWord i.toText where
  nonempty := by
    rw [toText, Ne, ← String.toList_eq_nil_iff, String.toList_ofList, write]
    simp
  plain c h := by
    rw [toText, String.toList_ofList, write] at h
    rcases List.mem_append.mp h with tag | h
    · have word : k.tag.toList.all isWordChar = true := by cases k <;> decide
      exact List.all_eq_true.mp word c tag
    rcases List.mem_cons.mp h with rfl | digit
    · rfl
    · obtain ⟨b, -, hc⟩ := List.mem_flatMap.mp digit
      have size : b.toNat < 256 := b.toNat_lt
      rw [Text.hexOfByte, List.mem_cons, List.mem_singleton] at hc
      rcases hc with rfl | rfl
      · exact hexDigit_isWordChar _ (by omega)
      · exact hexDigit_isWordChar _ (by omega)

end Id

namespace Operation

theorem segments_words (o : Operation) : ∀ s ∈ o.segments, IsWord s := by
  have ids {k : IdKind} (i : Id k) : IsWord i.toText := i.isWord_toText
  have literal {s : String} (h : s ∈ ["v1", "services", "heartbeat", "daemon", "long-poll",
      "traces", "long-poll-inactive", "events", "specs", "spec-versions", "by-label", "ids", "diff"]) :
      IsWord s := by
    revert s
    decide
  cases o <;> simp [segments, ids, literal]

theorem segments_ne_nil (o : Operation) : o.segments ≠ [] := by
  cases o <;> exact List.cons_ne_nil _ _

end Operation

namespace Url

/-- An address that differs from a base by a path under it and by the pairs of its query. -/
structure IsUnder (u base : Url) (segments : List String) (pairs : List (String × String)) :
    Prop where
  scheme : u.scheme = base.scheme
  host : u.host = base.host
  port : u.port = base.port
  path : u.path.toText = base.path.toText ++ "/".intercalate segments
  query : formRead? (u.query.getD "").toList = some pairs
  fragment : u.fragment = none
  /-- The user of the base may have been taken out. -/
  user : u.username = base.username ∧ u.password = base.password ∨
    u.username = "" ∧ u.password = none

theorem IsUnder.withoutUser {u base : Url} {segments : List String} {pairs : List (String × String)}
    (h : u.IsUnder base segments pairs) : u.withoutUser.IsUnder base segments pairs :=
  { h with user := .inr ⟨rfl, rfl⟩ }

/-- The address without its query. -/
def withoutQuery (u : Url) : Url := { u with query := none }

theorem withoutQuery_withPairs (u : Url) (pairs : List (String × String)) :
    (u.withPairs pairs).withoutQuery = u.withoutQuery := by
  rw [withPairs]
  split <;> rfl

theorem isUnder_withPairs {base : Url} {dir segments : List String}
    (directory : base.path = .segments (dir ++ [""])) (some_segment : segments ≠ [])
    (pairs : List (String × String)) :
    (withPairs { base with path := .segments (dir ++ segments), query := none, fragment := none }
      pairs).IsUnder base segments pairs := by
  have path := Path.toText_append dir some_segment
  rw [← directory] at path
  rw [withPairs]
  split
  · rename_i empty
    obtain rfl := List.isEmpty_iff.mp empty
    exact ⟨rfl, rfl, rfl, path, rfl, rfl, .inl ⟨rfl, rfl⟩⟩
  · refine ⟨rfl, rfl, rfl, path, ?_, rfl, .inl ⟨rfl, rfl⟩⟩
    change formRead? (String.ofList (formPairs pairs)).toList = some pairs
    rw [String.toList_ofList, formRead?_formPairs]

end Url

namespace TransportSettings

/-- The base that some settings ask for: what their address reads as, with a path that ends in a
slash, and not in the open unless that is allowed. -/
structure IsBase (s : TransportSettings) (base : Url) : Prop where
  configured : ∃ text u, s.addressText = .ok text ∧ Url.read text = .ok u ∧
    base.scheme = u.scheme ∧ base.host = u.host ∧ base.port = u.port ∧
    (base.path.toText = u.path.toText ∨ base.path.toText = u.path.toText ++ "/")
  slash : ∃ start, base.path.toText = start ++ "/"
  scheme : base.scheme = "https" ∨ base.scheme = "http" ∧ s.allowInsecureHttp = true

theorem isSpecial_of_allowed {scheme : String} {inOpen : Prop}
    (h : scheme = "https" ∨ scheme = "http" ∧ inOpen) : Url.isSpecial scheme = true := by
  rcases h with rfl | ⟨rfl, -⟩ <;> rfl

theorem IsBase.isSpecial {s : TransportSettings} {base : Url} (h : s.IsBase base) :
    Url.isSpecial base.scheme = true := isSpecial_of_allowed h.scheme

theorem isBase_address {s : TransportSettings} {base : Url} (h : s.address = .ok base) :
    s.IsBase base ∧ ∃ dir, base.path = .segments (dir ++ [""]) := by
  obtain ⟨text, addressed, h⟩ := Document.bind_eq_ok h
  split at h
  · cases h
  rename_i u read
  dsimp only at h
  have secure : base = u.asDirectory ∧
      (base.scheme = "https" ∨ base.scheme = "http" ∧ s.allowInsecureHttp = true) := by
    split at h
    · rename_i allowed
      cases h
      simpa using allowed
    · split at h <;> cases h
  obtain ⟨rfl, scheme⟩ := secure
  have special : Url.isSpecial u.scheme = true := by
    rw [← Url.scheme_asDirectory]
    exact isSpecial_of_allowed scheme
  obtain ⟨dir, same, path⟩ := Url.exists_asDirectory (Url.read_hasSegments text u read special)
  rw [same] at scheme ⊢
  refine ⟨⟨⟨text, u, addressed, read, rfl, rfl, rfl, ?_⟩, ⟨_, Url.Path.toText_concat dir⟩, scheme⟩,
    dir, rfl⟩
  rcases path with path | path
  · exact .inl (congrArg Url.Path.toText path.symm)
  · rw [path]
    exact .inr (Url.Path.toText_concat dir)

end TransportSettings

theorem Url.exists_host_of_withHost {u base : Url} {text : String}
    (h : u.withHost text = .ok base) : ∃ host, base = { u with host } := by
  have placed {read : Except UrlError Host}
      (h : (do return { u with host := some (← read) }) = Except.ok base) :
      ∃ host, base = { u with host } := by
    obtain ⟨host, -, same⟩ := Document.bind_eq_ok h
    exact ⟨some host, (Except.ok.inj same).symm⟩
  -- Every branch refuses the text or reads some part of it.
  simp only [withHost] at h
  split_ifs at h <;> first | cases h | exact placed h

namespace Transport

open Network (Effect requests)

/-- What is connected to is the base, but for a server name in place of its host. -/
theorem exists_host_of_connect {t : Transport ρ} {n : Network σ} {c : Connection}
    (connected : t.connect n = .ok c) : ∃ host, c.base = { t.base with host } := by
  rw [connect] at connected
  split at connected
  on_goal 1 =>
    split at connected
    · cases connected
  -- with or without a proxy, the rest depends on the server name
  all_goals
    dsimp only at connected
    split at connected
    · cases connected
      exact ⟨_, rfl⟩
    · cases connected
    · split at connected
      · cases connected
      · split at connected
        · rename_i moved
          cases connected
          exact Url.exists_host_of_withHost moved
        · cases connected

theorem target_eq {base : Url} {dir : List String} (special : Url.isSpecial base.scheme = true)
    (directory : base.path = .segments (dir ++ [""])) {c : ServiceCall} {r : ApiRequest}
    (asked : c.request? = some r) (peer : Option Url.Host) :
    target ⟨base, peer⟩ r =
      .ok (Url.withPairs
        { base with path := .segments (dir ++ c.operation.segments), query := none, fragment := none }
        c.parameters) := by
  obtain ⟨path, query⟩ := ServiceCall.request?_eq_some asked
  have words := c.operation.segments_words
  have some_segment := c.operation.segments_ne_nil
  have relative : String.ofList (r.path.toList.dropWhile (· = '/')) =
      "/".intercalate c.operation.segments := by
    obtain ⟨first, rest, chars, word⟩ := Url.exists_cons_intercalate words some_segment
    have other : first ≠ '/' := by
      rintro rfl
      cases word
    rw [path, String.toList_append, chars]
    -- the slash that every path begins with goes, and nothing more
    change String.ofList (('/' :: first :: rest).dropWhile (· = '/')) = _
    rw [List.dropWhile_cons_of_pos (by decide), List.dropWhile_cons_of_neg (by simpa using other),
      ← chars, String.ofList_toList]
  rw [target, relative, Url.join_words special directory words some_segment, query]

/-- What goes out for a call goes to its operation under the base of the transport. -/
theorem isUnder_prepared {t : Transport ρ} (based : t.settings.IsBase t.base) {dir : List String}
    (directory : t.base.path = .segments (dir ++ [""])) (unnamed : t.settings.tlsServerName = none)
    {n : Network σ} {c : ServiceCall} {r : ApiRequest} (asked : c.request? = some r)
    {q : HttpRequest} (ready : t.prepared? n r = some q) :
    q.peer = none ∧ q.url.IsUnder t.base c.operation.segments c.parameters := by
  obtain ⟨credentials, connection, -, connected, ready⟩ := exists_of_prepared? ready
  obtain rfl := (t.checked_connect n).of_ok connected unnamed
  obtain ⟨-, -, peer, url, found, sent⟩ := (t.checked_prepare _ credentials r).of_ok ready
  rw [target_eq based.isSpecial directory asked] at found
  cases found
  have under := Url.isUnder_withPairs directory c.operation.segments_ne_nil c.parameters
  refine ⟨peer, ?_⟩
  rcases sent with sent | sent
  · exact sent ▸ under
  · exact sent ▸ under.withoutUser

theorem call_of_request {t : Transport ρ} {n : Network σ} {c : ServiceCall} {r : ApiRequest}
    (asked : c.request? = some r) (s : Observed ρ σ) : t.call n c s = t.send n ⟨r, c.answer⟩ s := by
  rw [call, asked]

/-- A call that has no request leaves the network alone. -/
theorem state_call_of_none {t : Transport ρ} {n : Network σ} {c : ServiceCall}
    (asked : c.request? = none) (s : Observed ρ σ) : (t.call n c s).2 = s := by
  rw [call, asked]

theorem isUnder_requests {t : Transport ρ} (based : t.settings.IsBase t.base) {dir : List String}
    (directory : t.base.path = .segments (dir ++ [""])) (unnamed : t.settings.tlsServerName = none)
    (n : Network σ) (c : ServiceCall) (s : Observed ρ (σ × List Effect)) :
    ∃ sent, (t.call n.logged c s).2.state.2 = s.state.2 ++ sent ∧
      ∀ q ∈ requests sent,
        q.peer = none ∧ q.url.IsUnder t.base c.operation.segments c.parameters := by
  cases asked : c.request? with
  | none =>
    rw [state_call_of_none asked]
    exact ⟨[], (List.append_nil _).symm, fun q none_sent => absurd none_sent List.not_mem_nil⟩
  | some r =>
    rw [call_of_request asked]
    obtain ⟨sent, log, attempted⟩ := attempted_send t n ⟨r, c.answer⟩ s
    exact ⟨sent, log, fun q hq =>
      isUnder_prepared based directory unnamed asked (attempted.prepared q hq)⟩

/-- Whatever a call asks for, its requests go to the base that the transport was set up with. The path
under it is that of the operation, and calls of one operation differ in the query at most. -/
theorem call_stays_under_base {settings : TransportSettings} {client : Uuid}
    {reporter : FailureReporter ρ} {t : Transport ρ}
    (accepted : Transport.new settings client reporter = .ok t)
    (unnamed : settings.tlsServerName = none) :
    settings.IsBase t.base ∧
      (∀ (c : ServiceCall) r, c.request? = some r → ∃ url, target ⟨t.base, none⟩ r = .ok url ∧
        url.IsUnder t.base c.operation.segments c.parameters) ∧
      (∀ (c c' : ServiceCall) r r' url url', c.request? = some r → c'.request? = some r' →
        target ⟨t.base, none⟩ r = .ok url → target ⟨t.base, none⟩ r' = .ok url' →
        c.operation = c'.operation → url.withoutQuery = url'.withoutQuery) ∧
      ∀ (σ : Type) (n : Network σ) (c : ServiceCall) (s : Observed ρ (σ × List Effect)),
        ∃ sent, (t.call n.logged c s).2.state.2 = s.state.2 ++ sent ∧
          ∀ q ∈ requests sent,
            q.peer = none ∧ q.url.IsUnder t.base c.operation.segments c.parameters := by
  cases addressed : settings.address with
  | error e =>
    rw [Transport.new, addressed] at accepted
    cases accepted
  | ok base =>
    rw [Transport.new, addressed] at accepted
    cases accepted
    obtain ⟨based, dir, directory⟩ := TransportSettings.isBase_address addressed
    refine ⟨based, fun c r asked => ⟨_, target_eq based.isSpecial directory asked none,
      Url.isUnder_withPairs directory c.operation.segments_ne_nil c.parameters⟩, ?_,
      fun σ n c s => isUnder_requests based directory unnamed n c s⟩
    intro c c' r r' url url' asked asked' found found' same
    rw [target_eq based.isSpecial directory asked] at found
    rw [target_eq based.isSpecial directory asked'] at found'
    cases found
    cases found'
    rw [Url.withoutQuery_withPairs, Url.withoutQuery_withPairs, same]

/-- A base in the open with a user, a path, a query and a fragment, and a label full of marks. -/
theorem call_stays_under_base_prefixed :
    let settings := { TransportSettings.standard with
      baseUrl := some " http://u:p@localhost:8080/api?x=1#f"
      allowInsecureHttp := true
      credentials := some (.basic "id" "secret") }
    let base : Url := ⟨"http", "u", some "p", some (.name "localhost"), some 8080,
      .segments ["api", ""], some "x=1", some "f"⟩
    let t : Transport Nat := ⟨settings, .nil, .empty, base⟩
    let c := ServiceCall.getSpecByVersion .nil "../v 2/é&x=#?"
    let url : Url := { base with
      path := .segments ["api", "v1", "services", "svc_00000000000000000000000000000000",
        "spec-versions", "by-label"]
      query := some "label=..%2Fv+2%2F%C3%A9%26x%3D%23%3F"
      fragment := none }
    Transport.new settings .nil .empty = .ok t ∧ settings.tlsServerName = none ∧
      settings.IsBase base ∧ (∃ r, c.request? = some r ∧ target ⟨base, none⟩ r = .ok url) ∧
      url.IsUnder base c.operation.segments [("label", "../v 2/é&x=#?")] ∧
      requests (t.call Network.scripted.logged c ⟨([], []), .empty, []⟩).2.state.2 ≠ [] ∧
      ∀ q ∈ requests (t.call Network.scripted.logged c ⟨([], []), .empty, []⟩).2.state.2,
        q.peer = none ∧ q.url.IsUnder base c.operation.segments c.parameters := by
  intro settings base t c url
  have addressed : settings.address = .ok base := by decide +kernel
  have accepted : Transport.new settings .nil .empty = .ok t := by
    rw [Transport.new, addressed]
    rfl
  obtain ⟨based, targets, -, sends⟩ := call_stays_under_base accepted rfl
  have known : target ⟨base, none⟩ ((c.request?).getD (.get "" "")) = .ok url := by decide +kernel
  obtain ⟨found, same, under⟩ := targets c _ rfl
  cases known.symm.trans same
  obtain ⟨sent, log, all⟩ := sends _ Network.scripted c ⟨([], []), .empty, []⟩
  rw [List.nil_append] at log
  refine ⟨accepted, rfl, based, ⟨_, rfl, known⟩, under, by decide +kernel, ?_⟩
  rw [log]
  exact all

end Transport

end TrafficTrace
