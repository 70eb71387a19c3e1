import Mathlib.Data.List.Forall2
import Mathlib.Data.List.TakeWhile
import TrafficTrace.Proofs.Config.Layering

/-!
# Settings are shown without the secrets

Two choices of sources that differ only in what is written in their credentials, and not in whether
there is something written, come to settings that differ only in the credentials, and there not in
their kind. So what is shown of the settings is the same, and credentials that differ only in the key
and the secret are described by the same text.
-/
namespace TrafficTrace

namespace Text

theorem all_dropWhile (p : Char → Bool) (cs : List Char) : (cs.dropWhile p).all p = cs.all p := by
  induction cs with
  | nil => rfl
  | cons c cs ih => cases here : p c <;> simp [here, ih]

theorem trimChars_eq_nil_iff (cs : List Char) : trimChars cs = [] ↔ cs.all isBlank = true := by
  rw [trimChars, dropEndWhile, List.reverse_eq_nil_iff, List.dropWhile_eq_nil_iff,
    ← List.all_eq_true, List.all_reverse, all_dropWhile]

end Text

/-- A value is present when it is not blank. -/
theorem isSome_presentValue (s : String) :
    (presentValue (some s)).isSome = !Text.isAllBlank s := by
  have blank := Text.trimChars_eq_nil_iff s.toList
  rw [presentValue, Text.isAllBlank, Text.trim]
  cases all : s.toList.all Text.isBlank with
  | true => simp [blank.mpr all]
  | false =>
    have filled : Text.trimChars s.toList ≠ [] := by
      intro none
      rw [blank.mp none] at all
      cases all
    simp [filled]

/-- One value in the place of another: the same, or both of them not blank. -/
inductive Replaced : Option String → Option String → Prop where
  | same (v : Option String) : Replaced v v
  | other {s t : String} (filled : Text.isAllBlank s = false) (filled' : Text.isAllBlank t = false) :
      Replaced (some s) (some t)

theorem Replaced.isSome_eq {v w : Option String} (h : Replaced v w) :
    (presentValue v).isSome = (presentValue w).isSome := by
  cases h with
  | same => rfl
  | other filled filled' => rw [isSome_presentValue, isSome_presentValue, filled, filled']

/-- Two values that are present in the same cases. -/
theorem presentValue_cases {v w : Option String} (h : Replaced v w) :
    (presentValue v = none ∧ presentValue w = none) ∨
      ∃ s t, presentValue v = some s ∧ presentValue w = some t := by
  have same := h.isSome_eq
  cases left : presentValue v <;> cases right : presentValue w <;> simp_all

/-! ### Pieces of credentials -/

namespace CredentialPieces

variable {p q : CredentialPieces}

/-- Pieces of which any have other values. -/
structure Alike (p q : CredentialPieces) : Prop where
  apiKey : Replaced p.apiKey q.apiKey
  environment : Replaced p.environment q.environment
  keyId : Replaced p.keyId q.keyId
  secret : Replaced p.secret q.secret

/-- Pieces of which the key and the secret may have other values. -/
structure AlikeInPublic (p q : CredentialPieces) : Prop where
  apiKey : Replaced p.apiKey q.apiKey
  environment : p.environment = q.environment
  keyId : p.keyId = q.keyId
  secret : Replaced p.secret q.secret

theorem AlikeInPublic.alike (h : AlikeInPublic p q) : Alike p q where
  apiKey := h.apiKey
  environment := h.environment ▸ .same _
  keyId := h.keyId ▸ .same _
  secret := h.secret

/-- Related pieces that cannot be told apart by the half that is lacking, nor by a view of the
credentials that they make. -/
def Blind {β : Type} (R : CredentialPieces → CredentialPieces → Prop) (view : Credentials → β) :
    Prop :=
  ∀ p q, R p q → p.absentHalf? = q.absentHalf? ∧ p.complete?.map view = q.complete?.map view

theorem Alike.blind : Blind Alike Credentials.kind := by
  rintro p q h
  rw [absentHalf?, absentHalf?, complete?, complete?, resolve, resolve, Credentials.resolve,
    Credentials.resolve]
  rcases presentValue_cases h.apiKey with ⟨k, k'⟩ | ⟨_, _, k, k'⟩ <;>
    rcases presentValue_cases h.keyId with ⟨i, i'⟩ | ⟨_, _, i, i'⟩ <;>
    rcases presentValue_cases h.secret with ⟨s, s'⟩ | ⟨_, _, s, s'⟩ <;>
    rw [k, k', i, i', s, s'] <;> exact ⟨rfl, rfl⟩

theorem AlikeInPublic.blind : Blind AlikeInPublic Credentials.describe := by
  rintro p q h
  refine ⟨(Alike.blind p q h.alike).1, ?_⟩
  rw [complete?, complete?, resolve, resolve, Credentials.resolve, Credentials.resolve,
    ← h.environment, ← h.keyId]
  rcases presentValue_cases h.apiKey with ⟨k, k'⟩ | ⟨_, _, k, k'⟩ <;>
    rcases presentValue_cases h.secret with ⟨s, s'⟩ | ⟨_, _, s, s'⟩ <;>
    rw [k, k', s, s'] <;> cases presentValue p.keyId <;> rfl

end CredentialPieces

/-! ### Sources -/

def ConfigFile.withPieces (f : ConfigFile) (p : CredentialPieces) : ConfigFile :=
  { f with
    apiKey := p.apiKey
    apiKeyEnvironment := p.environment
    apiKeyId := p.keyId
    apiKeySecret := p.secret }

def EnvironmentSettings.withPieces (e : EnvironmentSettings) (p : CredentialPieces) :
    EnvironmentSettings :=
  { e with
    apiKey := p.apiKey
    environment := p.environment
    apiKeyId := p.keyId
    apiKeySecret := p.secret }

/-- Settings with other credentials. -/
def Settings.withCredentials (s : Settings) (c : Option Credentials) : Settings :=
  { s with transport := { s.transport with credentials := c } }

variable {β : Type} {R : CredentialPieces → CredentialPieces → Prop} {view : Credentials → β}

/-- The same source but for its pieces of credentials, which are related. -/
inductive Source.Differ (R : CredentialPieces → CredentialPieces → Prop) : Source → Source → Prop where
  | file (f : ConfigFile) {p : CredentialPieces} (h : R (.ofFile f) p) :
      Differ R (.file f) (.file (f.withPieces p))
  | environment (e : EnvironmentSettings) {p : CredentialPieces} (h : R (.ofEnvironment e) p) :
      Differ R (.environment e) (.environment (e.withPieces p))
  | command (c : CommandOptions) : Differ R (.command c) (.command c)

/-- The same settings but for the credentials, which look the same. -/
def Settings.LooksLike (view : Credentials → β) (s t : Settings) : Prop :=
  ∃ c, t = s.withCredentials c ∧ c.map view = s.transport.credentials.map view

theorem map_orElse (a b : Option Credentials) :
    (a <|> b).map view = (a.map view <|> b.map view) := by
  cases a <;> rfl

/-- Taking in one source keeps settings alike. -/
theorem Source.Differ.onto {src src' : Source} (h : Differ R src src')
    (blind : CredentialPieces.Blind R view) {s t : Settings} (alike : s.LooksLike view t) :
    (src.onto s).LooksLike view (src'.onto t) := by
  obtain ⟨c, rfl, look⟩ := alike
  cases h with
  | command o => exact ⟨c, rfl, look⟩
  | @file _ p h | @environment _ p h =>
    obtain ⟨half, complete⟩ := blind _ _ h
    refine ⟨p.complete? <|> c, ?_, ?_⟩
    · change ({ transport := { missing := p.absentHalf?.getD s.transport.missing, .. }, .. } :
        Settings) = _
      rw [← half]
      rfl
    · rw [map_orElse, ← complete, look, ← map_orElse]
      rfl

/-- Sources taken in one after the other, from settings that are alike. -/
theorem looksLike_foldr (blind : CredentialPieces.Blind R view) {sources sources' : List Source}
    (h : List.Forall₂ (Source.Differ R) sources sources') (s : Settings) :
    (sources.foldr Source.onto s).LooksLike view (sources'.foldr Source.onto s) := by
  induction h with
  | nil => exact ⟨s.transport.credentials, rfl, rfl⟩
  | cons differ _ ih => exact differ.onto blind ih

namespace Layers

/-- The same file, or none on both sides, but for pieces of credentials that are related. -/
def FilesDiffer (R : CredentialPieces → CredentialPieces → Prop) :
    Option ConfigFile → Option ConfigFile → Prop :=
  Option.Rel fun f g => ∃ p, R (.ofFile f) p ∧ g = f.withPieces p

/-- The same sources but for pieces of credentials that are related. -/
structure Differ (R : CredentialPieces → CredentialPieces → Prop) (l m : Layers) : Prop where
  global : FilesDiffer R l.global m.global
  workspace : FilesDiffer R l.workspace m.workspace
  personal : FilesDiffer R l.personal m.personal
  environment : ∃ p, R (.ofEnvironment l.environment) p ∧ m.environment = l.environment.withPieces p
  command : m.command = l.command

variable {l m : Layers}

theorem FilesDiffer.sources {f g : Option ConfigFile} (h : FilesDiffer R f g)
    {fs gs : List (Option ConfigFile)}
    (rest : List.Forall₂ (Source.Differ R) ((fs.filterMap id).map .file)
      ((gs.filterMap id).map .file)) :
    List.Forall₂ (Source.Differ R) (((f :: fs).filterMap id).map .file)
      (((g :: gs).filterMap id).map .file) := by
  cases h with
  | none => exact rest
  | some related =>
    obtain ⟨p, related, rfl⟩ := related
    exact .cons (.file _ related) rest

theorem Differ.sources (h : l.Differ R m) :
    List.Forall₂ (Source.Differ R) l.sources m.sources := by
  obtain ⟨p, related, environment⟩ := h.environment
  rw [Layers.sources, Layers.sources, environment, h.command]
  exact .cons (.command _) (.cons (.environment _ related)
    (h.personal.sources (h.workspace.sources (h.global.sources .nil))))

theorem Differ.looksLike (h : l.Differ R m) (blind : CredentialPieces.Blind R view) :
    l.merge.LooksLike view m.merge := by
  rw [merge_eq_foldr, merge_eq_foldr]
  exact looksLike_foldr blind h.sources .standard

end Layers

/-- What is shown of credentials is their kind. -/
theorem Settings.LooksLike.display_eq {s t : Settings} (h : s.LooksLike Credentials.kind t) :
    t.display = s.display := by
  obtain ⟨c, rfl, look⟩ := h
  have same : (s.withCredentials c).toJson = s.toJson := by
    rw [toJson, toJson, withCredentials]
    dsimp only
    rw [look]
  rw [display, display, same]

/-- Other values for the credentials, where a value that is not blank stays one, show in nothing that
is displayed. Other values for the key and the secret alone do not show in the description of the
credentials either. -/
theorem Layers.display_conceals (l m : Layers) :
    (l.Differ CredentialPieces.Alike m → m.merge.display = l.merge.display) ∧
      (l.Differ CredentialPieces.AlikeInPublic m →
        m.merge.transport.credentials.map Credentials.describe =
          l.merge.transport.credentials.map Credentials.describe) := by
  refine ⟨fun h => ?_, fun h => ?_⟩
  · exact (h.looksLike CredentialPieces.Alike.blind).display_eq
  · obtain ⟨c, same, look⟩ := h.looksLike CredentialPieces.AlikeInPublic.blind
    rw [same]
    exact look

/-- A pair in the global file, whose halves are both replaced in the first place and whose secret alone
is replaced in the second, with half a pair above it. -/
theorem Layers.display_conceals_pair :
    let pair (keyId secret : String) : ConfigFile :=
      { ConfigFile.empty with apiKeyId := some keyId, apiKeySecret := some secret }
    let half : ConfigFile := { ConfigFile.empty with apiKeyId := some "other", apiKeySecret := some " " }
    let layers (keyId secret : String) : Layers :=
      ⟨some (pair keyId secret), some half, none, .none, .none⟩
    let l := layers "id" "secret"
    l.Differ CredentialPieces.Alike (layers "name" " hidden ") ∧
      l.Differ CredentialPieces.AlikeInPublic (layers "id" "hidden") ∧
      (layers "name" " hidden ").merge.transport.credentials = some (.basic "name" "hidden") ∧
      (layers "name" " hidden ").merge.display = l.merge.display ∧
      (layers "id" "hidden").merge.transport.credentials.map Credentials.describe =
        l.merge.transport.credentials.map Credentials.describe := by
  intro pair half layers l
  have filled : Text.isAllBlank "id" = false ∧ Text.isAllBlank "secret" = false ∧
      Text.isAllBlank "name" = false ∧ Text.isAllBlank " hidden " = false ∧
      Text.isAllBlank "hidden" = false := by decide +kernel
  obtain ⟨id, secret, name, padded, hidden⟩ := filled
  have unchanged : CredentialPieces.AlikeInPublic (.ofFile half) (.ofFile half) :=
    ⟨.same _, rfl, rfl, .same _⟩
  have unset : CredentialPieces.AlikeInPublic (.ofEnvironment .none) (.ofEnvironment .none) :=
    ⟨.same _, rfl, rfl, .same _⟩
  have differ : l.Differ CredentialPieces.Alike (layers "name" " hidden ") :=
    { global := .some ⟨.ofFile (pair "name" " hidden "),
        ⟨.same _, .same _, .other id name, .other secret padded⟩, rfl⟩
      workspace := .some ⟨_, unchanged.alike, rfl⟩
      personal := .none
      environment := ⟨_, unset.alike, rfl⟩
      command := rfl }
  have differ' : l.Differ CredentialPieces.AlikeInPublic (layers "id" "hidden") :=
    { global := .some ⟨.ofFile (pair "id" "hidden"), ⟨.same _, rfl, rfl, .other secret hidden⟩, rfl⟩
      workspace := .some ⟨_, unchanged, rfl⟩
      personal := .none
      environment := ⟨_, unset, rfl⟩
      command := rfl }
  exact ⟨differ, differ', by decide +kernel, (display_conceals _ _).1 differ,
    (display_conceals _ _).2 differ'⟩

end TrafficTrace
