import TrafficTrace.Event
import TrafficTrace.Proofs.Collector.Conjunction
import TrafficTrace.Proofs.Text.Casing
import TrafficTrace.Proofs.Text.Framing

/-!
# One host in many spellings

A host is written with blanks around it, dots at its end, a port, and letters of either case. What
is taken for its name is the same in all spellings: blanks go first, so that the port is at the end;
then the port, so that the dots are; then the dots. Filters see the name only.
-/
namespace TrafficTrace

open Text

namespace Text

variable {p : Char → Bool} {cs pad : List Char}

theorem dropEndWhile_append_of_ends (hpad : ∀ c ∈ pad, p c = true) (h : Ends p cs.reverse) :
    dropEndWhile p (cs ++ pad) = cs := by
  have dropped : (pad.reverse ++ cs.reverse).dropWhile p = cs.reverse :=
    dropWhile_append_of_ends (fun c hc => hpad c (List.mem_reverse.mp hc)) h
  rw [dropEndWhile, List.reverse_append, dropped, List.reverse_reverse]

/-- Blanks are taken from both ends, and nothing else. -/
theorem trimChars_padded {before after : List Char} (hbefore : ∀ c ∈ before, isBlank c = true)
    (hafter : ∀ c ∈ after, isBlank c = true) (first : Ends isBlank cs)
    (last : Ends isBlank cs.reverse) : trimChars (before ++ cs ++ after) = cs := by
  rw [trimChars]
  cases cs with
  | nil =>
    have blank : ∀ c ∈ before ++ after, isBlank c = true := by
      intro c hc
      rcases List.mem_append.mp hc with hc | hc
      · exact hbefore c hc
      · exact hafter c hc
    have gone := dropWhile_append_of_ends (r := []) blank (ends_nil isBlank)
    rw [List.append_nil] at gone
    rw [List.append_nil, gone]
    rfl
  | cons c cs =>
    have visible : Ends isBlank (c :: cs ++ after) := ends_cons (first c rfl) _
    rw [List.append_assoc, dropWhile_append_of_ends hbefore visible,
      dropEndWhile_append_of_ends hafter last]

end Text

namespace Event

/-- A host as it is meant: without a port, blanks around it or a dot at the end. It may be empty. -/
structure IsBare (name : String) : Prop where
  portless : ':' ∉ name.toList
  first : Ends isBlank name.toList
  last : Ends isBlank name.toList.reverse
  undotted : Ends (fun c => decide (c = '.')) name.toList.reverse

instance (name : String) : Decidable (IsBare name) :=
  decidable_of_iff (':' ∉ name.toList ∧ Ends isBlank name.toList ∧
      Ends isBlank name.toList.reverse ∧
      Ends (fun c => decide (c = '.')) name.toList.reverse)
    ⟨fun ⟨a, b, c, d⟩ => ⟨a, b, c, d⟩, fun ⟨a, b, c, d⟩ => ⟨a, b, c, d⟩⟩

/-- No letter plays a part in this. -/
theorem isBare_asciiLower_iff (name : String) : IsBare (asciiLower name) ↔ IsBare name := by
  have text : (asciiLower name).toList = name.toList.map asciiLowerChar := by
    rw [asciiLower_eq_map, String.toList_ofList]
  have portless := (ignoresCase_eq ':' (by decide)).mem_map_iff name.toList
  have first := ignoresCase_isBlank.ends_iff name.toList
  have last := ignoresCase_isBlank.ends_iff name.toList.reverse
  have undotted := (ignoresCase_eq '.' (by decide)).ends_iff name.toList.reverse
  rw [← text] at portless first
  rw [List.map_reverse, ← text] at last undotted
  constructor
  · intro h
    exact ⟨mt portless.mpr h.portless, first.mp h.first, last.mp h.last, undotted.mp h.undotted⟩
  · intro h
    exact ⟨mt portless.mp h.portless, first.mpr h.first, last.mpr h.last,
      undotted.mpr h.undotted⟩

/-- What a host can be written with. -/
structure Spelling where
  before : List Char
  dots : Nat
  /-- What follows a colon. -/
  port : Option (List Char)
  after : List Char
  blank_before : before.all isBlank = true
  digits : port.all (List.all · Json.isDigit) = true
  blank_after : after.all isBlank = true

namespace Spelling

variable (s : Spelling)

def portText : List Char :=
  match s.port with
  | some ds => ':' :: ds
  | none => []

def dotText : List Char := List.replicate s.dots '.'

def write (name : String) : String :=
  String.ofList (s.before ++ (name.toList ++ s.dotText ++ s.portText) ++ s.after)

theorem all_isDigit {ds : List Char} (port : s.port = some ds) : ds.all Json.isDigit = true := by
  simpa [port] using s.digits

theorem portText_not_blank : ∀ c ∈ s.portText, isBlank c = false := by
  intro c hc
  rw [portText] at hc
  split at hc
  · rename_i ds port
    rcases List.mem_cons.mp hc with rfl | hc
    · decide
    · exact isBlank_eq_false_of_isDigit (List.all_eq_true.mp (s.all_isDigit port) c hc)
  · cases hc

theorem dotText_not_blank : ∀ c ∈ s.dotText, isBlank c = false := by
  intro c hc
  obtain rfl := List.eq_of_mem_replicate hc
  decide

/-- A port is told by its colon, since there is none before it. -/
theorem withoutPort_append {body : List Char} (portless : ':' ∉ body) :
    withoutPort (body ++ s.portText) = body := by
  rw [portText]
  cases port : s.port with
  | none =>
    dsimp only
    rw [List.append_nil, withoutPort, splitLast_eq_none portless]
  | some ds =>
    have digits := s.all_isDigit port
    have absent : ':' ∉ ds := fun hc =>
      absurd (List.all_eq_true.mp digits ':' hc) (by decide)
    have clear : body.all (fun c => decide (c ≠ ':')) = true := by
      simp only [List.all_eq_true, decide_eq_true_eq]
      rintro c hc rfl
      exact portless hc
    dsimp only
    rw [withoutPort, splitLast_append absent]
    simp only [clear, digits, Bool.and_true, if_true]

theorem trimChars_write {name : String} (bare : IsBare name) :
    trimChars (s.write name).toList = name.toList ++ s.dotText ++ s.portText := by
  rw [write, String.toList_ofList]
  have dots := s.dotText_not_blank
  have port := s.portText_not_blank
  refine trimChars_padded (List.all_eq_true.mp s.blank_before)
    (List.all_eq_true.mp s.blank_after) ?_ ?_
  · exact (bare.first.append (ends_of_forall dots)).append (ends_of_forall port)
  · rw [List.reverse_append, List.reverse_append]
    refine Ends.append (ends_of_forall ?_) (Ends.append (ends_of_forall ?_) bare.last)
    · exact fun c hc => port c (List.mem_reverse.mp hc)
    · exact fun c hc => dots c (List.mem_reverse.mp hc)

/-- All spellings of a name have it as their name, in lower case. -/
theorem hostNameOf_write {name : String} (bare : IsBare name) :
    hostNameOf (s.write name) = lower name := by
  have portless : ':' ∉ name.toList ++ s.dotText := by
    intro hc
    rcases List.mem_append.mp hc with hc | hc
    · exact bare.portless hc
    · exact absurd (List.eq_of_mem_replicate hc) (by decide)
  have undotted : dropEndWhile (fun c => decide (c = '.')) (name.toList ++ s.dotText) =
      name.toList :=
    dropEndWhile_append_of_ends
      (fun c hc => decide_eq_true (List.eq_of_mem_replicate hc)) bare.undotted
  rw [hostNameOf, s.trimChars_write bare, s.withoutPort_append portless, undotted,
    String.ofList_toList]

end Spelling

/-- Two hosts that are spellings of one name, or of two that differ in the case of ASCII letters,
have this name in lower case. So host patterns and filters decide the same about both. -/
theorem filters_ignore_spelling {name variant : String} (bare : IsBare name)
    (letters : asciiLower variant = asciiLower name) (s t : Spelling) (e : Event) :
    let one := { e with host := s.write name }
    let other := { e with host := t.write variant }
    one.hostName = lower name ∧ other.hostName = lower name ∧
      (∀ rules : ExclusionRules,
        rules.excludesHost one.hostName = rules.excludesHost other.hostName) ∧
      ∀ f : EventFilter, f.passes one = f.passes other := by
  intro one other
  have bare' : IsBare variant := by
    rw [← isBare_asciiLower_iff, letters, isBare_asciiLower_iff]
    exact bare
  have first : one.hostName = lower name := s.hostNameOf_write bare
  have second : other.hostName = lower name := by
    rw [← lower_asciiLower name, ← letters, lower_asciiLower]
    exact t.hostNameOf_write bare'
  refine ⟨first, second, fun rules => by rw [first, second], fun f => ?_⟩
  cases f with
  | exclusion rules =>
    rw [EventFilter.passes, EventFilter.passes, ExclusionRules.excludes, ExclusionRules.excludes,
      first, second]
  | trackers included =>
    rw [EventFilter.passes, EventFilter.passes, Collector.isTracker, Collector.isTracker, first,
      second]

/-- A tracker that is written in small letters, and with everything a host can be written with. -/
theorem filters_ignore_spelling_tracker :
    let full : Spelling := ⟨['\t'], 2, some ['8', '0'], [' '], rfl, rfl, rfl⟩
    let plain : Spelling := ⟨[], 0, none, [], rfl, rfl, rfl⟩
    let e (host : String) : Event := .request "GET" host "/" .epoch
    IsBare "Api.Mixpanel.COM" ∧
      asciiLower "api.mixpanel.com" = asciiLower "Api.Mixpanel.COM" ∧
      full.write "Api.Mixpanel.COM" = "\tApi.Mixpanel.COM..:80 " ∧
      plain.write "api.mixpanel.com" = "api.mixpanel.com" ∧
      ∀ f : EventFilter, f.passes (e (full.write "Api.Mixpanel.COM")) =
        f.passes (e (plain.write "api.mixpanel.com")) := by
  intro full plain e
  have bare : IsBare "Api.Mixpanel.COM" := by decide +kernel
  have letters : asciiLower "api.mixpanel.com" = asciiLower "Api.Mixpanel.COM" := by
    decide +kernel
  exact ⟨bare, letters, by decide +kernel, by decide +kernel,
    (filters_ignore_spelling bare letters full plain (e "")).2.2.2⟩

end Event

end TrafficTrace
