import Mathlib.Data.List.Basic
import TrafficTrace.Text.Blank
import TrafficTrace.Tracker

/-!
# Which hosts are trackers

The search goes from a host to the domain above it, and on as long as that has a dot. It ends, and
it finds the listed domains and what lies below them, nothing else: every listed domain has a dot,
so that no search ends before it comes to one. Empty labels are labels like any other.
-/
namespace TrafficTrace.Tracker

/-- The domain above a host is what follows its first dot. Without a dot of its own it is none. -/
def above? (host : List Char) : Option (List Char) :=
  (Text.splitFirst '.' host).bind fun p => if p.2.contains '.' then some p.2 else none

@[simp] theorem above?_nil : above? [] = none := rfl

theorem above?_dot (cs : List Char) :
    above? ('.' :: cs) = if '.' ∈ cs then some cs else none := by
  simp [above?, Text.splitFirst]

theorem above?_cons {c : Char} (label : c ≠ '.') (cs : List Char) :
    above? (c :: cs) = above? cs := by
  rw [above?, above?, Text.splitFirst, if_neg label]
  cases Text.splitFirst '.' cs <;> rfl

/-- One turn of the search: a host, and then what is to be looked at from the domain above it. -/
theorem candidates_eq (host : List Char) :
    candidates host = host :: (above? host).elim [] candidates := by
  rw [candidates]
  congr 1
  induction host with
  | nil => rfl
  | cons c cs ih =>
    by_cases dot : c = '.'
    · subst dot
      rw [afterDots, if_pos rfl, List.takeWhile_cons, above?_dot]
      by_cases more : '.' ∈ cs
      · simp [more, candidates]
      · simp [more]
    · rw [afterDots, if_neg dot, above?_cons dot, ih]

/-- Every turn leaves one dot behind, and the last has at most one. -/
theorem count_above? (host : List Char) :
    (∀ parent, above? host = some parent →
      '.' ∈ parent ∧ host.count '.' = parent.count '.' + 1) ∧
    (above? host = none → host.count '.' ≤ 1) := by
  induction host with
  | nil => simp
  | cons c cs ih =>
    by_cases dot : c = '.'
    · subst dot
      rw [above?_dot]
      by_cases more : '.' ∈ cs
      · simp [more]
      · simp [more, List.count_eq_zero_of_not_mem more]
    · rw [above?_cons dot, List.count_cons_of_ne dot]
      exact ih

/-- What holds where the search ends and is handed down by each turn holds of every host. -/
theorem search_induction {P : List Char → Prop} (ends : ∀ host, above? host = none → P host)
    (goes : ∀ host parent, above? host = some parent → P parent → P host) (host : List Char) :
    P host := by
  induction turns : host.count '.' using Nat.strongRecOn generalizing host with
  | ind n ih =>
    cases above : above? host with
    | none => exact ends host above
    | some parent =>
      have fewer := ((count_above? host).1 parent above).2
      exact goes host parent above (ih (parent.count '.') (by omega) parent rfl)

/-- The search takes as many turns as the host has dots, and one if it has none. -/
theorem length_candidates (host : List Char) :
    (candidates host).length = max 1 (host.count '.') := by
  induction host using search_induction with
  | ends host above =>
    have few := (count_above? host).2 above
    rw [candidates_eq, above, Option.elim_none, List.length_singleton]
    omega
  | goes host parent above ih =>
    obtain ⟨dotted, one⟩ := (count_above? host).1 parent above
    have dots := List.count_pos_iff.mpr dotted
    rw [candidates_eq, above, Option.elim_some, List.length_cons, ih]
    omega

/-- What lies below a domain with a dot has the domain above it, or lies below it in turn. -/
theorem below_iff_above {domain : List Char} (dotted : '.' ∈ domain) (host : List Char) :
    '.' :: domain <:+ host ↔
      ∃ parent, above? host = some parent ∧ (domain = parent ∨ '.' :: domain <:+ parent) := by
  induction host with
  | nil => simp
  | cons c cs ih =>
    rw [List.suffix_cons_iff, List.cons_eq_cons]
    by_cases dot : c = '.'
    · subst dot
      rw [above?_dot]
      by_cases more : '.' ∈ cs
      · simp [more]
      -- a domain that ends the rest would bring its dot with it
      · have other : domain ≠ cs := fun same => more (same ▸ dotted)
        have apart : ¬ '.' :: domain <:+ cs := fun below => more (below.subset List.mem_cons_self)
        simp [more, other, apart]
    · have other : ¬ ('.' = c ∧ domain = cs) := fun same => dot same.1.symm
      rw [above?_cons dot, ← ih]
      simp [other]

theorem mem_candidates {domain : List Char} (dotted : '.' ∈ domain) (host : List Char) :
    domain ∈ candidates host ↔ domain = host ∨ '.' :: domain <:+ host := by
  induction host using search_induction with
  | ends host above =>
    rw [candidates_eq, List.mem_cons, below_iff_above dotted, above]
    simp
  | goes host parent above ih =>
    rw [candidates_eq, List.mem_cons, below_iff_above dotted, above]
    simp [ih]

/-- A host is a domain or lies below it. -/
def IsWithin (host domain : String) : Prop :=
  host = domain ∨ ∃ labels, host = labels ++ "." ++ domain

theorem isWithin_iff {host domain : String} :
    IsWithin host domain ↔
      domain.toList = host.toList ∨ '.' :: domain.toList <:+ host.toList := by
  constructor
  · rintro (rfl | ⟨labels, rfl⟩)
    · exact .inl rfl
    · exact .inr ⟨labels.toList, by simp⟩
  · rintro (same | ⟨labels, below⟩)
    · exact .inl (String.toList_inj.mp same.symm)
    · refine .inr ⟨String.ofList labels, String.toList_inj.mp ?_⟩
      simp [← below]

theorem IsWithin.suffix {host domain : String} (h : IsWithin host domain) :
    domain.toList <:+ host.toList := by
  rcases isWithin_iff.mp h with same | below
  · exact same ▸ List.suffix_rfl
  · exact (List.suffix_cons _ _).trans below

theorem IsWithin.below {host domain : String} (h : IsWithin host domain) (labels : String) :
    IsWithin (labels ++ "." ++ host) domain := by
  rcases h with rfl | ⟨between, rfl⟩
  · exact .inr ⟨labels, rfl⟩
  · exact .inr ⟨labels ++ "." ++ between, by simp [String.append_assoc]⟩

theorem dot_mem_of_listed : ∀ d ∈ domains, '.' ∈ d.toList := by
  decide +kernel

theorem isTrackerHost_eq_true_iff (host : String) :
    isTrackerHost host = true ↔ ∃ d ∈ domains, IsWithin host d := by
  have found : isTrackerHost host = true ↔ ∃ d ∈ domains, d.toList ∈ candidates host.toList := by
    simp only [isTrackerHost, List.any_eq_true, beq_iff_eq]
    constructor
    · rintro ⟨c, visited, d, listed, rfl⟩
      exact ⟨d, listed, visited⟩
    · rintro ⟨d, listed, visited⟩
      exact ⟨d.toList, visited, d, listed, rfl⟩
  rw [found]
  refine exists_congr fun d => and_congr_right fun listed => ?_
  rw [mem_candidates (dot_mem_of_listed d listed), isWithin_iff]

/-- Only one listed domain ends in the letters of another one. -/
theorem suffix_of_listed : ∀ d ∈ domains, ∀ e ∈ domains, d.toList <:+ e.toList →
    d = e ∨ d = "datadoghq.com" ∧ e = "browser-intake-datadoghq.com" := by
  decide +kernel

/-- A host that ends in the letters of a listed domain is a tracker if it is that domain or lies
below it, or for the one domain that itself ends in the letters of another one. -/
theorem within_of_letters {host d e : String} (listed : d ∈ domains)
    (letters : d.toList <:+ host.toList) (listed' : e ∈ domains) (within : IsWithin host e) :
    IsWithin host d ∨ d = "datadoghq.com" ∧ IsWithin host "browser-intake-datadoghq.com" := by
  rcases List.suffix_or_suffix_of_suffix letters within.suffix with ends | ends
  · rcases suffix_of_listed d listed e listed' ends with rfl | ⟨rfl, rfl⟩
    · exact .inl within
    · exact .inr ⟨rfl, within⟩
  · rcases suffix_of_listed e listed' d listed ends with rfl | ⟨rfl, rfl⟩
    · exact .inl within
    -- the letters before the shorter domain are those of the longer one, and no dot
    · exfalso
      rcases isWithin_iff.mp within with same | below
      · rw [← same] at letters
        revert letters
        decide
      · have dotted := List.suffix_of_suffix_length_le below letters (by decide)
        revert dotted
        decide

/-- Any text as a host. The search ends, after a turn for each dot, and tells whether the host is a
listed domain or lies below one, at whatever depth. So all that lies below a tracker is a tracker,
and it is not enough to end in the letters of a listed domain: such a host is a tracker only if it
is this domain, lies below it, or does so with the one listed domain that ends in these letters. -/
theorem isTrackerHost_iff_isWithin (host : String) :
    (candidates host.toList).length = max 1 (host.toList.count '.') ∧
    (isTrackerHost host = true ↔ ∃ d ∈ domains, IsWithin host d) ∧
    (∀ labels, isTrackerHost host = true → isTrackerHost (labels ++ "." ++ host) = true) ∧
    ∀ d ∈ domains, ∀ front, host = front ++ d → isTrackerHost host = true →
      IsWithin host d ∨ d = "datadoghq.com" ∧ IsWithin host "browser-intake-datadoghq.com" := by
  refine ⟨length_candidates _, isTrackerHost_eq_true_iff host, ?_, ?_⟩
  · intro labels tracker
    obtain ⟨d, listed, within⟩ := (isTrackerHost_eq_true_iff host).mp tracker
    exact (isTrackerHost_eq_true_iff _).mpr ⟨d, listed, within.below labels⟩
  · intro d listed front same tracker
    obtain ⟨e, listed', within⟩ := (isTrackerHost_eq_true_iff host).mp tracker
    have letters : d.toList <:+ host.toList := ⟨front.toList, by simp [same]⟩
    exact within_of_letters listed letters listed' within

end TrafficTrace.Tracker
