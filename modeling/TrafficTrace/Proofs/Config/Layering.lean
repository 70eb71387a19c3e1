import TrafficTrace.Config.Layers

/-!
# What the sources of settings amount to

The order in which they are taken in is not part of the description. A value is that of the highest
source that has it, credentials are those of the highest source that is complete by itself, tags are
looked up key by key, and exclusions are put together and kept once. Taking in one source decides
each setting between that source and what there was, and the lists of sources follow by induction.
The description leaves nothing open: no other settings answer to it.
-/
namespace TrafficTrace

variable {α : Type}

namespace Keyed

theorem lookup_eq_none_of_lt {key : String} {ms : List (String × α)} (h : ∀ m ∈ ms, key < m.1) :
    ms.lookup key = none := by
  refine List.lookup_eq_none_iff.2 fun m hm => ?_
  rw [bne_iff_ne]
  exact String.ne_of_lt (h m hm)

/-- In ascending order no key comes before the first. -/
theorem not_lt_of_lookup_eq_some {k key : String} {v value : α} {ms : List (String × α)}
    (h : ∀ m ∈ ms, k < m.1) (held : ((k, v) :: ms).lookup key = some value) : ¬ key < k := by
  intro lt
  rw [lookup_eq_none_of_lt fun m hm => ?_] at held
  · cases held
  · rcases List.mem_cons.1 hm with rfl | hm
    · exact lt
    · exact String.lt_trans lt (h m hm)

/-- Two lists in ascending order of the keys are one when they have the same value under each key. -/
theorem eq_of_lookup_eq {ms ns : List (String × α)} (hm : ms.Pairwise (·.1 < ·.1))
    (hn : ns.Pairwise (·.1 < ·.1)) (same : ∀ key, ms.lookup key = ns.lookup key) : ms = ns := by
  induction ms generalizing ns with
  | nil =>
    cases ns with
    | nil => rfl
    | cons n ns =>
      have := same n.1
      rw [List.lookup_nil, List.lookup_cons_self] at this
      cases this
  | cons m ms ih =>
    cases ns with
    | nil =>
      have := same m.1
      rw [List.lookup_nil, List.lookup_cons_self] at this
      cases this
    | cons n ns =>
      obtain ⟨k, v⟩ := m
      obtain ⟨k', v'⟩ := n
      rw [List.pairwise_cons] at hm hn
      obtain rfl : k = k' := String.le_antisymm
        (String.not_lt.1 (not_lt_of_lookup_eq_some hm.1 ((same k').trans List.lookup_cons_self)))
        (String.not_lt.1 (not_lt_of_lookup_eq_some hn.1 ((same k).symm.trans List.lookup_cons_self)))
      obtain rfl : v = v' := by simpa using same k
      congr 1
      refine ih hm.2 hn.2 fun key => ?_
      by_cases first : key = k
      · subst first
        rw [lookup_eq_none_of_lt hm.1, lookup_eq_none_of_lt hn.1]
      · have := same key
        rwa [List.lookup_cons, List.lookup_cons, beq_false_of_ne first] at this

end Keyed

namespace TagSet

theorem eq_of_get?_eq {t u : TagSet} (same : ∀ key, t.get? key = u.get? key) : t = u := by
  obtain ⟨ts, ht⟩ := t
  obtain ⟨us, hu⟩ := u
  obtain rfl : ts = us := Keyed.eq_of_lookup_eq ht hu same
  rfl

theorem get?_insert (t : TagSet) (k value key : String) :
    (t.insert k value).get? key = if key = k then some value else t.get? key :=
  Keyed.lookup_insert k value t.entries key

theorem get?_merge (t u : TagSet) (key : String) :
    (t.merge u).get? key = (u.get? key <|> t.get? key) := by
  obtain ⟨us, ascending⟩ := u
  change (us.foldl _ t).get? key = (us.lookup key <|> t.get? key)
  induction us generalizing t with
  | nil => rfl
  | cons m us ih =>
    rw [List.pairwise_cons] at ascending
    rw [List.foldl_cons, ih _ ascending.2, get?_insert, List.lookup_cons]
    by_cases here : key = m.1
    · rw [if_pos here, here, Keyed.lookup_eq_none_of_lt ascending.1, beq_self_eq_true]
      rfl
    · rw [if_neg here, beq_false_of_ne here]

end TagSet

namespace Config

theorem extend_cons (xs ys : List String) (y : String) :
    extend xs (y :: ys) = extend (if y ∈ xs then xs else xs ++ [y]) ys := rfl

theorem eraseDups_concat (xs : List String) (y : String) :
    (xs ++ [y]).eraseDups = if y ∈ xs.eraseDups then xs.eraseDups else xs.eraseDups ++ [y] := by
  simp only [List.eraseDups_append, List.mem_eraseDups]
  by_cases there : y ∈ xs <;> simp [List.removeAll, List.eraseDups_cons, there]

/-- Of equal items the first stays. -/
theorem extend_eraseDups (xs ys : List String) : extend xs.eraseDups ys = (xs ++ ys).eraseDups := by
  induction ys generalizing xs with
  | nil => rw [List.append_nil]; rfl
  | cons y ys ih =>
    rw [extend_cons, ← eraseDups_concat, ih, List.append_assoc, List.singleton_append]

theorem nodup_extend {xs : List String} (h : xs.Nodup) (ys : List String) :
    (extend xs ys).Nodup := by
  induction ys generalizing xs with
  | nil => exact h
  | cons y ys ih =>
    rw [extend_cons]
    split
    · exact ih h
    · rename_i new
      exact ih (List.nodup_append.2 ⟨h, List.nodup_cons.2 ⟨List.not_mem_nil, List.nodup_nil⟩,
        fun x hx z hz eq => new (List.mem_singleton.1 hz ▸ eq ▸ hx)⟩)

theorem nodup_eraseDups (xs : List String) : xs.eraseDups.Nodup := by
  rw [← List.nil_append xs, ← extend_eraseDups]
  exact nodup_extend List.nodup_nil xs

end Config

/-- The pieces that credentials are made of, as one source has them. -/
structure CredentialPieces where
  apiKey : Option String
  environment : Option String
  keyId : Option String
  secret : Option String

namespace CredentialPieces

def resolve (p : CredentialPieces) : Except MissingCredential Credentials :=
  Credentials.resolve p.apiKey p.environment p.keyId p.secret

/-- The credentials that the pieces make without any other. -/
def complete? (p : CredentialPieces) : Option Credentials := p.resolve.toOption

/-- The half that is lacking where there is no interface key and one half of a pair. -/
def absentHalf? (p : CredentialPieces) : Option MissingCredential :=
  match presentValue p.apiKey, presentValue p.keyId, presentValue p.secret with
  | none, some _, none => some .keySecret
  | none, none, some _ => some .keyId
  | _, _, _ => none

def ofFile (f : ConfigFile) : CredentialPieces :=
  ⟨f.apiKey, f.apiKeyEnvironment, f.apiKeyId, f.apiKeySecret⟩

def ofEnvironment (e : EnvironmentSettings) : CredentialPieces :=
  ⟨e.apiKey, e.environment, e.apiKeyId, e.apiKeySecret⟩

theorem fileCredentials_eq (f : ConfigFile) : Config.fileCredentials f = (ofFile f).resolve := rfl

theorem environmentCredentials_eq (e : EnvironmentSettings) :
    Config.environmentCredentials e = (ofEnvironment e).resolve := rfl

theorem withCredentials_resolve (t : TransportSettings) (p : CredentialPieces) :
    Config.withCredentials t p.resolve =
      { t with
        credentials := p.complete? <|> t.credentials
        missing := p.absentHalf?.getD t.missing } := by
  rw [complete?, absentHalf?, resolve, Credentials.resolve]
  cases presentValue p.apiKey <;> cases presentValue p.keyId <;> cases presentValue p.secret <;> rfl

end CredentialPieces

/-- Where each kind of source has a setting; a kind that cannot have it gives none. -/
structure Place (α : Type) where
  file : ConfigFile → Option α
  environment : EnvironmentSettings → Option α
  command : CommandOptions → Option α

namespace Place

open Config

/-- A setting that only files have. -/
def inFile (field : ConfigFile → Option α) : Place α := ⟨field, fun _ => none, fun _ => none⟩

def domain : Place String := ⟨(·.domain), (·.domain), (·.domain)⟩
def baseUrl : Place String := ⟨(·.baseUrl), fun _ => none, (·.baseUrl)⟩
def allowInsecureHttp : Place Bool := ⟨(·.allowInsecureHttp), fun _ => none, (·.allowInsecureHttp)⟩
def proxy : Place String := ⟨(·.proxy), (·.proxy), (·.proxy)⟩
def skipTlsVerify : Place Bool := ⟨(·.skipTlsVerify), fun _ => none, (·.skipTlsVerify)⟩
def tlsServerName : Place String := ⟨(·.tlsServerName), fun _ => none, (·.tlsServerName)⟩
def requestTimeout : Place Duration :=
  ⟨fun f => f.requestTimeoutSecs.map secs, fun _ => none, fun c => c.requestTimeoutSecs.map secs⟩
def minWait : Place Duration := inFile fun f => (f.retry.bind (·.minWaitMs)).map millis
def maxWait : Place Duration := inFile fun f => (f.retry.bind (·.maxWaitMs)).map millis
def maxAttempts : Place Nat := inFile fun f => (f.retry.bind (·.maxAttempts)).map (·.toNat)
def cacheFresh : Place Duration := inFile fun f => (f.cache.bind (·.freshSecs)).map secs
def cacheHard : Place Duration := inFile fun f => (f.cache.bind (·.hardSecs)).map secs
def batchSize : Place Nat := inFile fun f => (f.batch.bind (·.maxBatchSize)).map (·.toNat)
def batchAge : Place Duration := inFile fun f => (f.batch.bind (·.maxBatchAgeMs)).map millis
def pollTimeout : Place Duration := inFile fun f => (f.daemon.bind (·.pollTimeoutSecs)).map secs
/-- No source has the grace of a poll. -/
def pollGrace : Place Duration := inFile fun _ => none
def heartbeatInterval : Place Duration :=
  inFile fun f => (f.daemon.bind (·.heartbeatIntervalSecs)).map secs
def errorBackoff : Place Duration := inFile fun f => (f.daemon.bind (·.errorBackoffSecs)).map secs
def maxErrorBackoff : Place Duration :=
  inFile fun f => (f.daemon.bind (·.maxErrorBackoffSecs)).map secs
def includeTrackers : Place Bool := inFile (·.includeTrackers)
def tag (key : String) : Place String := inFile fun f => f.defaultTags.bind (·.get? key)
def completeCredentials : Place Credentials :=
  ⟨fun f => (CredentialPieces.ofFile f).complete?,
    fun e => (CredentialPieces.ofEnvironment e).complete?, fun _ => none⟩
def absentHalf : Place MissingCredential :=
  ⟨fun f => (CredentialPieces.ofFile f).absentHalf?,
    fun e => (CredentialPieces.ofEnvironment e).absentHalf?, fun _ => none⟩

end Place

/-- One of the sources, with what it has. -/
inductive Source where
  | file (f : ConfigFile)
  | environment (e : EnvironmentSettings)
  | command (c : CommandOptions)

/-- What a source has for a setting. -/
def Place.at (p : Place α) : Source → Option α
  | .file f => p.file f
  | .environment e => p.environment e
  | .command c => p.command c

namespace Source

def tags : Source → TagSet
  | file f => f.defaultTags.getD .empty
  | _ => .empty

/-- A list that only files have. -/
def listed (field : ConfigFile → Option (List String)) : Source → List String
  | file f => (field f).getD []
  | _ => []

/-- The settings after a source is taken in: each is decided between that source and what there was. -/
def onto (src : Source) (s : Settings) : Settings :=
  { transport :=
      { domain := (Place.domain.at src).getD s.transport.domain
        baseUrl := Place.baseUrl.at src <|> s.transport.baseUrl
        allowInsecureHttp := (Place.allowInsecureHttp.at src).getD s.transport.allowInsecureHttp
        credentials := Place.completeCredentials.at src <|> s.transport.credentials
        missing := (Place.absentHalf.at src).getD s.transport.missing
        proxy := Place.proxy.at src <|> s.transport.proxy
        skipTlsVerify := (Place.skipTlsVerify.at src).getD s.transport.skipTlsVerify
        tlsServerName := Place.tlsServerName.at src <|> s.transport.tlsServerName
        retry :=
          { minWait := (Place.minWait.at src).getD s.transport.retry.minWait
            maxWait := (Place.maxWait.at src).getD s.transport.retry.maxWait
            maxAttempts := (Place.maxAttempts.at src).getD s.transport.retry.maxAttempts }
        requestTimeout := (Place.requestTimeout.at src).getD s.transport.requestTimeout }
    cacheFresh := (Place.cacheFresh.at src).getD s.cacheFresh
    cacheHard := (Place.cacheHard.at src).getD s.cacheHard
    batch :=
      { maxSize := (Place.batchSize.at src).getD s.batch.maxSize
        maxAge := (Place.batchAge.at src).getD s.batch.maxAge }
    daemon :=
      { pollTimeout := (Place.pollTimeout.at src).getD s.daemon.pollTimeout
        pollGrace := (Place.pollGrace.at src).getD s.daemon.pollGrace
        heartbeatInterval := (Place.heartbeatInterval.at src).getD s.daemon.heartbeatInterval
        errorBackoff := (Place.errorBackoff.at src).getD s.daemon.errorBackoff
        maxErrorBackoff := (Place.maxErrorBackoff.at src).getD s.daemon.maxErrorBackoff }
    defaultTags := s.defaultTags.merge src.tags
    includeTrackers := (Place.includeTrackers.at src).getD s.includeTrackers
    hostExclusions := Config.extend s.hostExclusions (src.listed (·.hostExclusions))
    pathExclusions := Config.extend s.pathExclusions (src.listed (·.pathExclusions)) }

theorem withFile_eq (s : Settings) (f : ConfigFile) : Config.withFile s f = (file f).onto s := by
  rw [Config.withFile, Config.transportWithFile, CredentialPieces.fileCredentials_eq,
    CredentialPieces.withCredentials_resolve]
  obtain ⟨_, _, _, _, _, _, _, _, _, _, _, retry, cache, batch, daemon, tags, _, _, _⟩ := f
  cases retry <;> cases cache <;> cases batch <;> cases daemon <;> cases tags <;> rfl

theorem withEnvironment_eq (s : Settings) (e : EnvironmentSettings) :
    Config.withEnvironment s e = (environment e).onto s := by
  rw [Config.withEnvironment, CredentialPieces.environmentCredentials_eq,
    CredentialPieces.withCredentials_resolve]
  rfl

theorem withCommand_eq (s : Settings) (c : CommandOptions) :
    Config.withCommand s c = (command c).onto s := rfl

theorem get?_onto_defaultTags (key : String) (src : Source) (s : Settings) :
    (src.onto s).defaultTags.get? key = ((Place.tag key).at src <|> s.defaultTags.get? key) := by
  change (s.defaultTags.merge src.tags).get? key = _
  rw [TagSet.get?_merge]
  cases src with
  | command c => rfl
  | environment e => rfl
  | file f =>
    obtain ⟨_, _, _, _, _, _, _, _, _, _, _, _, _, _, _, tags, _, _, _⟩ := f
    cases tags <;> rfl

end Source

namespace Layers

/-- The sources from the highest to the lowest; a file that is not there is none. -/
def sources (l : Layers) : List Source :=
  .command l.command :: .environment l.environment ::
    ([l.personal, l.workspace, l.global].filterMap id).map .file

/-- What the highest source that has a setting has for it. -/
def highest (l : Layers) (p : Place α) : Option α := l.sources.findSome? p.at

/-- The lists of the three files, one after the other. -/
def listed (l : Layers) (field : ConfigFile → Option (List String)) : List String :=
  let items (file : Option ConfigFile) := (file.bind field).getD []
  items l.global ++ items l.workspace ++ items l.personal

/-- What the sources say that the settings are, one setting at a time. -/
structure Describes (l : Layers) (s : Settings) : Prop where
  domain : s.transport.domain = (l.highest .domain).getD TransportSettings.standard.domain
  baseUrl : s.transport.baseUrl = l.highest .baseUrl
  allowInsecureHttp : s.transport.allowInsecureHttp = (l.highest .allowInsecureHttp).getD false
  credentials : s.transport.credentials = l.highest .completeCredentials
  missing : s.transport.missing = (l.highest .absentHalf).getD .any
  proxy : s.transport.proxy = l.highest .proxy
  skipTlsVerify : s.transport.skipTlsVerify = (l.highest .skipTlsVerify).getD false
  tlsServerName : s.transport.tlsServerName = l.highest .tlsServerName
  requestTimeout : s.transport.requestTimeout =
    (l.highest .requestTimeout).getD TransportSettings.standard.requestTimeout
  minWait : s.transport.retry.minWait = (l.highest .minWait).getD RetryPolicy.standard.minWait
  maxWait : s.transport.retry.maxWait = (l.highest .maxWait).getD RetryPolicy.standard.maxWait
  maxAttempts : s.transport.retry.maxAttempts =
    (l.highest .maxAttempts).getD RetryPolicy.standard.maxAttempts
  cacheFresh : s.cacheFresh = (l.highest .cacheFresh).getD Cache.standardFresh
  cacheHard : s.cacheHard = (l.highest .cacheHard).getD Cache.standardHard
  batchSize : s.batch.maxSize = (l.highest .batchSize).getD BatchPolicy.standard.maxSize
  batchAge : s.batch.maxAge = (l.highest .batchAge).getD BatchPolicy.standard.maxAge
  pollTimeout : s.daemon.pollTimeout =
    (l.highest .pollTimeout).getD DaemonConfig.standard.pollTimeout
  pollGrace : s.daemon.pollGrace = (l.highest .pollGrace).getD DaemonConfig.standard.pollGrace
  heartbeatInterval : s.daemon.heartbeatInterval =
    (l.highest .heartbeatInterval).getD DaemonConfig.standard.heartbeatInterval
  errorBackoff : s.daemon.errorBackoff =
    (l.highest .errorBackoff).getD DaemonConfig.standard.errorBackoff
  maxErrorBackoff : s.daemon.maxErrorBackoff =
    (l.highest .maxErrorBackoff).getD DaemonConfig.standard.maxErrorBackoff
  includeTrackers : s.includeTrackers = (l.highest .includeTrackers).getD false
  defaultTags : ∀ key, s.defaultTags.get? key = l.highest (.tag key)
  hostExclusions : s.hostExclusions = (l.listed (·.hostExclusions)).eraseDups
  pathExclusions : s.pathExclusions = (l.listed (·.pathExclusions)).eraseDups

/-- Each setting is described, so no two settings are described by the same sources. -/
theorem Describes.unique {l : Layers} {s s' : Settings} (h : l.Describes s) (h' : l.Describes s') :
    s = s' := by
  obtain ⟨⟨_, _, _, _, _, _, _, _, ⟨_, _, _⟩, _⟩, _, _, ⟨_, _⟩, ⟨_, _, _, _, _⟩, _, _, _, _⟩ := s
  obtain ⟨⟨_, _, _, _, _, _, _, _, ⟨_, _, _⟩, _⟩, _, _, ⟨_, _⟩, ⟨_, _, _, _, _⟩, _, _, _, _⟩ := s'
  have tags := TagSet.eq_of_get?_eq fun key => (h.defaultTags key).trans (h'.defaultTags key).symm
  cases h
  cases h'
  simp_all

/-- Taking in the sources one after the other begins with the lowest. -/
theorem merge_eq_foldr (l : Layers) : l.merge = l.sources.foldr Source.onto .standard := by
  rw [merge, Source.withCommand_eq, Source.withEnvironment_eq]
  simp only [files, sources, List.foldr_cons]
  cases l.global <;> cases l.workspace <;> cases l.personal <;>
    simp only [List.filterMap_cons, List.filterMap_nil, id_eq, List.map_cons, List.map_nil,
      List.foldl_cons, List.foldl_nil, List.foldr_cons, List.foldr_nil, Source.withFile_eq]

/-- What each source puts before what there was is, in the end, what the highest source has. -/
theorem view_merge (view : Settings → Option α) (p : Place α)
    (step : ∀ src s, view (Source.onto src s) = (p.at src <|> view s)) (l : Layers) :
    view l.merge = (l.highest p <|> view .standard) := by
  rw [merge_eq_foldr, highest]
  induction l.sources with
  | nil => rfl
  | cons src sources ih =>
    rw [List.foldr_cons, step, ih, List.findSome?_cons]
    cases p.at src <;> rfl

theorem view_merge_of_none (view : Settings → Option α) (p : Place α)
    (standard : view .standard = none)
    (step : ∀ src s, view (Source.onto src s) = (p.at src <|> view s)) (l : Layers) :
    view l.merge = l.highest p := by
  rw [view_merge view p step, standard]
  cases l.highest p <;> rfl

theorem view_merge_getD (view : Settings → α) (p : Place α)
    (step : ∀ src s, view (Source.onto src s) = (p.at src).getD (view s)) (l : Layers) :
    view l.merge = (l.highest p).getD (view .standard) := by
  have always : some (view l.merge) = (l.highest p <|> some (view .standard)) :=
    view_merge (fun s => some (view s)) p (fun src s => by rw [step]; cases p.at src <;> rfl) l
  cases highest : l.highest p <;> rw [highest] at always <;> exact Option.some.inj always

/-- Lists that each source adds to are in the end all of them together. -/
theorem view_merge_listed (view : Settings → List String)
    (field : ConfigFile → Option (List String)) (standard : view .standard = [])
    (step : ∀ src s, view (Source.onto src s) = Config.extend (view s) (src.listed field))
    (l : Layers) : view l.merge = (l.listed field).eraseDups := by
  have together (sources : List Source) :
      view (sources.foldr Source.onto .standard) =
        (sources.reverse.flatMap (Source.listed field)).eraseDups := by
    induction sources with
    | nil => exact standard
    | cons src sources ih =>
      rw [List.foldr_cons, step, ih, Config.extend_eraseDups, List.reverse_cons,
        List.flatMap_append, List.flatMap_singleton]
  rw [merge_eq_foldr, together]
  obtain ⟨global, workspace, personal, environment, command⟩ := l
  cases global <;> cases workspace <;> cases personal <;>
    simp [sources, listed, Source.listed]

theorem merge_describes (l : Layers) : l.Describes l.merge where
  domain := l.view_merge_getD (·.transport.domain) .domain fun _ _ => rfl
  baseUrl := l.view_merge_of_none (·.transport.baseUrl) .baseUrl rfl fun _ _ => rfl
  allowInsecureHttp :=
    l.view_merge_getD (·.transport.allowInsecureHttp) .allowInsecureHttp fun _ _ => rfl
  credentials :=
    l.view_merge_of_none (·.transport.credentials) .completeCredentials rfl fun _ _ => rfl
  missing := l.view_merge_getD (·.transport.missing) .absentHalf fun _ _ => rfl
  proxy := l.view_merge_of_none (·.transport.proxy) .proxy rfl fun _ _ => rfl
  skipTlsVerify := l.view_merge_getD (·.transport.skipTlsVerify) .skipTlsVerify fun _ _ => rfl
  tlsServerName :=
    l.view_merge_of_none (·.transport.tlsServerName) .tlsServerName rfl fun _ _ => rfl
  requestTimeout := l.view_merge_getD (·.transport.requestTimeout) .requestTimeout fun _ _ => rfl
  minWait := l.view_merge_getD (·.transport.retry.minWait) .minWait fun _ _ => rfl
  maxWait := l.view_merge_getD (·.transport.retry.maxWait) .maxWait fun _ _ => rfl
  maxAttempts := l.view_merge_getD (·.transport.retry.maxAttempts) .maxAttempts fun _ _ => rfl
  cacheFresh := l.view_merge_getD (·.cacheFresh) .cacheFresh fun _ _ => rfl
  cacheHard := l.view_merge_getD (·.cacheHard) .cacheHard fun _ _ => rfl
  batchSize := l.view_merge_getD (·.batch.maxSize) .batchSize fun _ _ => rfl
  batchAge := l.view_merge_getD (·.batch.maxAge) .batchAge fun _ _ => rfl
  pollTimeout := l.view_merge_getD (·.daemon.pollTimeout) .pollTimeout fun _ _ => rfl
  pollGrace := l.view_merge_getD (·.daemon.pollGrace) .pollGrace fun _ _ => rfl
  heartbeatInterval :=
    l.view_merge_getD (·.daemon.heartbeatInterval) .heartbeatInterval fun _ _ => rfl
  errorBackoff := l.view_merge_getD (·.daemon.errorBackoff) .errorBackoff fun _ _ => rfl
  maxErrorBackoff := l.view_merge_getD (·.daemon.maxErrorBackoff) .maxErrorBackoff fun _ _ => rfl
  includeTrackers := l.view_merge_getD (·.includeTrackers) .includeTrackers fun _ _ => rfl
  defaultTags key :=
    l.view_merge_of_none (·.defaultTags.get? key) (.tag key) rfl (Source.get?_onto_defaultTags key)
  hostExclusions := l.view_merge_listed (·.hostExclusions) (·.hostExclusions) rfl fun _ _ => rfl
  pathExclusions := l.view_merge_listed (·.pathExclusions) (·.pathExclusions) rfl fun _ _ => rfl

/-- The merged settings are what the sources describe, and nothing else is. -/
theorem describes_iff_eq_merge (l : Layers) :
    (∀ s, l.Describes s ↔ s = l.merge) ∧
      l.merge.hostExclusions.Nodup ∧ l.merge.pathExclusions.Nodup := by
  refine ⟨fun s => ⟨fun described => described.unique l.merge_describes, ?_⟩, ?_, ?_⟩
  · rintro rfl
    exact l.merge_describes
  · rw [l.merge_describes.hostExclusions]
    exact Config.nodup_eraseDups _
  · rw [l.merge_describes.pathExclusions]
    exact Config.nodup_eraseDups _

-- half a pair in a higher file neither replaces the pair below it nor completes another
example :
    let pair := { ConfigFile.empty with apiKeyId := some "k", apiKeySecret := some "s" }
    let half := { ConfigFile.empty with apiKeyId := some "other", apiKeySecret := some " " }
    let t := (merge ⟨some pair, some half, none, .none, .none⟩).transport
    t.credentials = some (.basic "k" "s") ∧ t.missing = .keySecret := by
  decide +kernel

end Layers

end TrafficTrace
