import Mathlib.Tactic.SplitIfs
import TrafficTrace.Proofs.Document.Record
import TrafficTrace.Proofs.Json.Unambiguous
import TrafficTrace.Proofs.Number.Canonical

/-!
# What was read

A property of documents holds of everything that is read when it holds of the scalars that a reader
can leave, and of a container when it holds of the parts one level deeper.

So every number of a value that was read from text is in canonical form. It comes from rounding, or is
a zero; the reader and the decoder of values only pass it on.
-/
namespace TrafficTrace.Json

open Document

/-! ### What every document that is read has in common -/

/-- A property of what is read at a depth, kept by every step of the reader. -/
structure ReadInvariant (P : Nat → Node → Prop) : Prop where
  fault : ∀ depth, P depth .fault
  null : ∀ depth, P depth .null
  bool : ∀ depth b, P depth (.bool b)
  string : ∀ depth value, P depth (.string value)
  number : ∀ depth (t : NumberText), P depth (.number t.value?)
  array : ∀ depth items closed, (∀ n ∈ items, P (depth + 1) n) →
    P depth (atDepth depth (.array items closed))
  object : ∀ depth members closed, (∀ m ∈ members, P (depth + 1) m.2) →
    P depth (atDepth depth (.object members closed))

/-- What the readers of values, items and members leave in the document, by the fuel. -/
structure Leaves (P : Nat → Node → Prop) (fuel : Nat) : Prop where
  value : ∀ depth cs, P depth (readValue fuel depth cs).1
  items : ∀ depth cs, ∀ n ∈ (readItems fuel depth cs).1.1, P depth n
  members : ∀ depth cs, ∀ m ∈ (readMembers fuel depth cs).1.1, P depth m.2

namespace ReadInvariant

variable {P : Nat → Node → Prop} {fuel : Nat}

theorem word (h : ReadInvariant P) {depth : Nat} {w cs : List Char} {n : Node} (hn : P depth n) :
    P depth (word w n cs).1 := by
  rw [Json.word]
  split
  · exact hn
  · exact h.fault depth

theorem value_succ (h : ReadInvariant P) (before : Leaves P fuel) (depth : Nat) (cs : List Char) :
    P depth (readValue (fuel + 1) depth cs).1 := by
  rw [readValue]
  split
  · exact h.fault depth
  · split_ifs
    · exact h.word (h.null depth)
    · exact h.word (h.bool depth true)
    · exact h.word (h.bool depth false)
    · split
      · exact h.string depth _
      · exact h.fault depth
    · apply h.array
      split
      · exact nofun
      · exact before.items _ _
    · apply h.object
      split
      · exact nofun
      · exact before.members _ _
    · split
      · exact h.number depth _
      · exact h.fault depth

theorem items_succ (before : Leaves P fuel) (depth : Nat) (cs : List Char) :
    ∀ n ∈ (readItems (fuel + 1) depth cs).1.1, P depth n := by
  have value := before.value depth cs
  rw [readItems]
  rcases read : readValue fuel depth cs with ⟨n, _ | rest⟩ <;> rw [read] at value
  · exact List.forall_mem_singleton.mpr value
  · dsimp only
    split
    · exact List.forall_mem_singleton.mpr value
    · exact List.forall_mem_cons.mpr ⟨value, before.items depth _⟩
    · exact List.forall_mem_singleton.mpr value

theorem members_succ (h : ReadInvariant P) (before : Leaves P fuel) (depth : Nat) (cs : List Char) :
    ∀ m ∈ (readMembers (fuel + 1) depth cs).1.1, P depth m.2 := by
  rw [readMembers]
  split
  · split
    · exact nofun
    · split
      · rename_i rest _
        have value := before.value depth rest
        rcases read : readValue fuel depth rest with ⟨n, _ | rest⟩ <;> rw [read] at value
        · exact List.forall_mem_singleton.mpr value
        · dsimp only
          split
          · exact List.forall_mem_singleton.mpr value
          · exact List.forall_mem_cons.mpr ⟨value, before.members depth _⟩
          · exact List.forall_mem_singleton.mpr value
      · exact List.forall_mem_singleton.mpr (h.fault depth)
  · exact nofun

theorem leaves (h : ReadInvariant P) (fuel : Nat) : Leaves P fuel := by
  induction fuel with
  | zero =>
    constructor
    · intro depth cs
      rw [readValue]
      exact h.fault depth
    · intro depth cs
      rw [readItems]
      exact nofun
    · intro depth cs
      rw [readMembers]
      exact nofun
  | succ fuel before =>
    constructor
    · exact h.value_succ before
    · exact items_succ before
    · exact h.members_succ before

theorem readText (h : ReadInvariant P) (s : String) : P 0 (readText s).1 := by
  have value := (h.leaves (2 * s.toList.length + 2)).value 0 s.toList
  rw [Json.readText]
  rcases read : readValue (2 * s.toList.length + 2) 0 s.toList with ⟨n, _ | rest⟩ <;>
    rw [read] at value
  · exact value
  · exact value

end ReadInvariant

end TrafficTrace.Json

namespace TrafficTrace

open Number Document

/-! ### Numbers -/

namespace Json

theorem isCanonical_of_scale? {x z : Binary64} {exponent : ℤ} {fuel : ℕ} (hx : x.IsCanonical)
    (h : scale? x exponent fuel = some z) : z.IsCanonical := by
  induction fuel generalizing x exponent with
  | zero => cases h
  | succ fuel ih =>
    -- a power of ten is at least one, so its float is not zero
    have power {n : ℕ} {p : Binary64} (hp : Binary64.ofNat? (Nat.pow 10 n) = some p) :
        p.mantissa ≠ 0 :=
      Binary64.mantissa_ne_zero_of_ofRatio? one_ne_zero (Nat.pow_pos (by decide)) hp
    rw [scale?] at h
    split at h
    · obtain ⟨p, hp, h⟩ := Option.bind_eq_some_iff.mp h
      split at h
      · exact Binary64.isCanonical_of_mul? h
      · exact Binary64.isCanonical_of_div? (power hp) h
    · split at h
      · cases h
        exact hx
      · split at h
        · cases h
        · obtain ⟨p, hp, h⟩ := Option.bind_eq_some_iff.mp h
          obtain ⟨y, hy, h⟩ := Option.bind_eq_some_iff.mp h
          exact ih (Binary64.isCanonical_of_div? (power hp) hy) h

theorem NumberText.isCanonical_of_float? {t : NumberText} {significand : ℕ} {shift : ℤ}
    {x : Binary64} (h : t.float? significand shift = some x) : x.IsCanonical := by
  have scaled {e : ℤ} {y z : Binary64} (hy : Binary64.ofNat? significand = some y)
      (hz : scale? y e 8 = some z) : ({ z with negative := t.negative } : Binary64).IsCanonical := by
    have canonical := isCanonical_of_scale?
      (Binary64.isCanonical_of_ofRatio? one_ne_zero hy) hz
    exact ⟨canonical.fits, canonical.least, canonical.greatest, canonical.full⟩
  rw [float?] at h
  dsimp only at h
  split at h
  · split at h
    · split at h
      · cases h
      · cases h
        exact Binary64.isCanonical_zero _
    · obtain ⟨y, hy, h⟩ := Option.bind_eq_some_iff.mp h
      obtain ⟨z, hz, h⟩ := Option.bind_eq_some_iff.mp h
      cases h
      exact scaled hy hz
  · obtain ⟨y, hy, h⟩ := Option.bind_eq_some_iff.mp h
    obtain ⟨z, hz, h⟩ := Option.bind_eq_some_iff.mp h
    cases h
    exact scaled hy hz

theorem NumberText.isCanonical_of_value? {t : NumberText} {x : Binary64}
    (h : t.value? = some (.float x)) : x.IsCanonical := by
  rw [value?] at h
  dsimp only at h
  -- with or without a fraction
  split at h
  all_goals
    split at h
    · cases h
    · obtain ⟨y, hy, same⟩ := Option.map_eq_some_iff.mp h
      cases same
      exact isCanonical_of_float? hy

end Json

namespace Document.Node

mutual
/-- The numbers with a point or an exponent in a document. -/
def floats : Node → List Binary64
  | .number (some (.float x)) => [x]
  | .array items _ | .sequence items _ => floatsOfItems items
  | .object ms _ => floatsOfMembers ms
  | .deep inner => floats inner
  | _ => []

def floatsOfItems : List Node → List Binary64
  | [] => []
  | n :: ns => floats n ++ floatsOfItems ns

def floatsOfMembers : List (Option String × Node) → List Binary64
  | [] => []
  | (_, n) :: ms => floats n ++ floatsOfMembers ms
end

/-- All numbers of a document have the form in which they are read and computed. -/
def IsCanonical (n : Node) : Prop := ∀ x ∈ n.floats, x.IsCanonical

theorem mem_floatsOfItems {ns : List Node} {x : Binary64} :
    x ∈ floatsOfItems ns ↔ ∃ n ∈ ns, x ∈ n.floats := by
  induction ns with
  | nil => simp [floatsOfItems]
  | cons n ns ih => simp [floatsOfItems, ih]

theorem mem_floatsOfMembers {ms : List (Option String × Node)} {x : Binary64} :
    x ∈ floatsOfMembers ms ↔ ∃ m ∈ ms, x ∈ m.2.floats := by
  induction ms with
  | nil => simp [floatsOfMembers]
  | cons m ms ih => simp [floatsOfMembers, ih]

theorem isCanonical_array {ns : List Node} {closed : Bool} :
    (array ns closed).IsCanonical ↔ ∀ n ∈ ns, n.IsCanonical := by
  constructor
  · intro h n hn x hx
    exact h x (mem_floatsOfItems.mpr ⟨n, hn, hx⟩)
  · intro h x hx
    obtain ⟨n, hn, hx⟩ := mem_floatsOfItems.mp hx
    exact h n hn x hx

theorem isCanonical_object {ms : List (Option String × Node)} {closed : Bool} :
    (object ms closed).IsCanonical ↔ ∀ m ∈ ms, m.2.IsCanonical := by
  constructor
  · intro h m hm x hx
    exact h x (mem_floatsOfMembers.mpr ⟨m, hm, hx⟩)
  · intro h x hx
    obtain ⟨m, hm, hx⟩ := mem_floatsOfMembers.mp hx
    exact h m hm x hx

theorem isCanonical_of_mem_parts {n part : Node} (hn : n.IsCanonical) (h : part ∈ n.parts) :
    part.IsCanonical := by
  unfold parts at h
  split at h
  · exact isCanonical_array.mp hn part h
  · obtain ⟨m, hm, rfl⟩ := List.mem_map.mp h
    exact isCanonical_object.mp hn m hm
  · cases h

end Document.Node

namespace Json

theorem isCanonical_atDepth {depth : ℕ} {n : Node} (h : n.IsCanonical) :
    (atDepth depth n).IsCanonical := by
  rw [atDepth]
  split
  · exact h
  · exact h

theorem isCanonical_number (t : NumberText) : (Node.number t.value?).IsCanonical := by
  intro x hx
  cases value : t.value? with
  | none =>
    rw [value] at hx
    cases hx
  | some v =>
    rw [value] at hx
    cases v with
    | int n => cases hx
    | float y =>
      obtain rfl := List.mem_singleton.mp hx
      exact t.isCanonical_of_value? value

theorem readInvariant_isCanonical : ReadInvariant fun _ n => n.IsCanonical where
  fault _ := nofun
  null _ := nofun
  bool _ _ := nofun
  string _ _ := nofun
  number _ t := isCanonical_number t
  array _ _ _ parts := isCanonical_atDepth (Node.isCanonical_array.mpr parts)
  object _ _ _ parts := isCanonical_atDepth (Node.isCanonical_object.mpr parts)

/-- What is decoded from a text is decoded from its document. -/
theorem decodeText_eq_ok {α : Type} {d : Decoder α} {s : String} {a : α}
    (h : decodeText d s = .ok a) : d (readText s).1 = .ok a := by
  rw [decodeText] at h
  generalize readText s = document at h ⊢
  obtain ⟨n, complete⟩ := document
  obtain ⟨b, decoded, h⟩ := bind_eq_ok h
  cases complete with
  | false => cases h
  | true =>
    obtain rfl := Except.ok.inj h
    exact decoded

theorem isCanonical_readText (s : String) : (readText s).1.IsCanonical :=
  readInvariant_isCanonical.readText s

theorem mem_floatsOfMembers {ms : List (String × Json)} {x : Binary64} :
    x ∈ floatsOfMembers ms ↔ ∃ m ∈ ms, x ∈ m.2.floats := by
  induction ms with
  | nil => simp [floatsOfMembers]
  | cons m ms ih => simp [floatsOfMembers, ih]

/-- Sorting by the keys adds no member. -/
theorem mem_of_mem_ofList {ms : List (String × Json)} {m : String × Json}
    (h : m ∈ Keyed.ofList ms) : m ∈ ms := by
  have fold (l acc : List (String × Json))
      (h : m ∈ l.foldl (fun acc m => Keyed.insert m.1 m.2 acc) acc) : m ∈ acc ∨ m ∈ l := by
    induction l generalizing acc with
    | nil => exact .inl h
    | cons a l ih =>
      rcases ih _ h with h | h
      · rcases Keyed.fst_mem_insert h with rfl | h
        · exact .inr List.mem_cons_self
        · exact .inl h
      · exact .inr (List.mem_cons_of_mem _ h)
  exact (fold ms [] h).resolve_left List.not_mem_nil

mutual
/-- A value has no other numbers than the document from which it is decoded. -/
theorem mem_floats_of_json (n : Node) {j : Json} (h : Decoder.json n = .ok j) :
    ∀ x ∈ j.floats, x ∈ n.floats := by
  match n with
  | .null | .bool _ | .number (some (.int _)) | .string (some _) | .plain _ | .tagged _ _
  | .lines _ _ =>
    obtain rfl := Except.ok.inj h
    exact nofun
  | .number (some (.float x)) =>
    obtain rfl := Except.ok.inj h
    exact fun _ hy => hy
  | .array items true | .sequence items true =>
    rw [Decoder.json] at h
    obtain ⟨js, decoded, h⟩ := bind_eq_ok h
    obtain rfl := Except.ok.inj h
    exact mem_floats_of_jsonItems items decoded
  | .object ms true =>
    rw [Decoder.json] at h
    obtain ⟨members, decoded, h⟩ := bind_eq_ok h
    obtain rfl := Except.ok.inj h
    intro x hx
    obtain ⟨m, hm, hx⟩ := mem_floatsOfMembers.mp hx
    have unsorted := mem_floatsOfMembers.mpr ⟨m, mem_of_mem_ofList hm, hx⟩
    exact mem_floats_of_jsonMembers ms decoded x unsorted
  | .array items false | .sequence items false =>
    rw [Decoder.json] at h
    obtain ⟨_, -, h⟩ := bind_eq_ok h
    cases h
  | .object ms false =>
    rw [Decoder.json] at h
    obtain ⟨_, -, h⟩ := bind_eq_ok h
    cases h
  | .number none | .string none | .deep _ | .fault => cases h

theorem mem_floats_of_jsonItems (ns : List Node) {js : List Json}
    (h : Decoder.jsonItems ns = .ok js) : ∀ x ∈ floatsOfItems js, x ∈ Node.floatsOfItems ns := by
  match ns with
  | [] =>
    obtain rfl := Except.ok.inj h
    exact nofun
  | n :: ns =>
    rw [Decoder.jsonItems] at h
    obtain ⟨j, first, h⟩ := bind_eq_ok h
    obtain ⟨rest, others, h⟩ := bind_eq_ok h
    obtain rfl := Except.ok.inj h
    intro x hx
    rcases List.mem_append.mp hx with hx | hx
    · exact List.mem_append_left _ (mem_floats_of_json n first x hx)
    · exact List.mem_append_right _ (mem_floats_of_jsonItems ns others x hx)

theorem mem_floats_of_jsonMembers (ns : List (Option String × Node)) {ms : List (String × Json)}
    (h : Decoder.jsonMembers ns = .ok ms) :
    ∀ x ∈ floatsOfMembers ms, x ∈ Node.floatsOfMembers ns := by
  match ns with
  | [] =>
    obtain rfl := Except.ok.inj h
    exact nofun
  | (none, _) :: _ => cases h
  | (some key, n) :: ns =>
    rw [Decoder.jsonMembers] at h
    obtain ⟨j, first, h⟩ := bind_eq_ok h
    obtain ⟨rest, others, h⟩ := bind_eq_ok h
    obtain rfl := Except.ok.inj h
    intro x hx
    rcases List.mem_append.mp hx with hx | hx
    · exact List.mem_append_left _ (mem_floats_of_json n first x hx)
    · exact List.mem_append_right _ (mem_floats_of_jsonMembers ns others x hx)
end

theorem isCanonical_of_json {n : Node} {j : Json} (hn : n.IsCanonical)
    (h : Decoder.json n = .ok j) : j.IsCanonical :=
  fun x hx => hn x (mem_floats_of_json n h x hx)

end Json

end TrafficTrace
