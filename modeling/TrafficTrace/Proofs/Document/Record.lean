import TrafficTrace.Document.Record

/-!
# What a record is read from

A record that is read has read all its fields. A field was decoded from a member of the document, or
it is the value that stands for an absent one.
-/
namespace TrafficTrace.Document

variable {α β ε : Type}

theorem bind_eq_ok {x : Except ε α} {f : α → Except ε β} {b : β} (h : x >>= f = .ok b) :
    ∃ a, x = .ok a ∧ f a = .ok b := by
  cases x with
  | error e => cases h
  | ok a => exact ⟨a, rfl, h⟩

theorem both_eq_ok {x : Outcome α} {y : Outcome β} {p : α × β} (h : x.both y = .ok p) :
    x = .ok p.1 ∧ y = .ok p.2 := by
  cases x <;> cases y <;> cases h
  exact ⟨rfl, rfl⟩

/-- The items or the values of the members. -/
def Node.parts : Node → List Node
  | .array items _ => items
  | .object ms _ => ms.map Prod.snd
  | _ => []

namespace Record

variable {ms : Members}

theorem read_map {f : α → β} {r : Record α} {b : β} (h : (f <$> r).read ms = .ok b) :
    ∃ a, r.read ms = .ok a ∧ f a = b := by
  cases read : r.read ms with
  | error e =>
    have failed : (f <$> r).read ms = .error e := congrArg (Except.map f) read
    rw [failed] at h
    cases h
  | ok a =>
    have mapped : (f <$> r).read ms = .ok (f a) := congrArg (Except.map f) read
    rw [mapped] at h
    exact ⟨a, rfl, Except.ok.inj h⟩

theorem read_seq {f : Record (α → β)} {r : Record α} {b : β} (h : (f <*> r).read ms = .ok b) :
    ∃ g a, f.read ms = .ok g ∧ r.read ms = .ok a ∧ g a = b := by
  obtain ⟨p, read, same⟩ := read_map (r := both f r) h
  obtain ⟨left, right⟩ := both_eq_ok read
  exact ⟨p.1, p.2, left, right, same⟩

theorem mem_of_locate {name : String} {entries : List (String × Node)} {start place : Nat}
    {n : Node} (h : locate name start entries = some (place, n)) : (name, n) ∈ entries := by
  induction entries generalizing start with
  | nil => cases h
  | cons m entries ih =>
    obtain ⟨k, n'⟩ := m
    rw [locate] at h
    split at h
    · rename_i same
      cases h
      rw [same]
      exact List.mem_cons_self
    · exact List.mem_cons_of_mem _ (ih h)

/-- A field has the value of its member, or the one for an absent field. -/
theorem read_field {name : String} {d : Decoder α} {absence : Absence α} {a : α}
    (h : (field name d absence).read ms = .ok a) :
    (∃ n, (name, n) ∈ ms.entries ∧ d n = .ok a) ∨ absence = .nullable a ∨ absence = .default a := by
  rw [field] at h
  dsimp only at h
  split at h
  · rename_i place n located
    refine .inl ⟨n, mem_of_locate located, ?_⟩
    cases decoded : d n <;> rw [decoded] at h <;> cases h
    rfl
  · split at h
    · cases h
      exact .inr (.inr rfl)
    · split at h <;> cases h
      exact .inr (.inl rfl)
    · cases h

theorem read_of_readMembers {r : Record α} {a : α} (h : r.readMembers ms = .ok a) :
    r.read ms = .ok a := by
  rw [readMembers] at h
  split at h
  · rename_i done
    cases h
    exact (both_eq_ok done).2
  · cases h

theorem mem_of_mem_named {l : List (Option String × Node)} {closed : Bool} {m : String × Node}
    (h : m ∈ (named l closed).1) : (some m.1, m.2) ∈ l := by
  induction l with
  | nil => cases h
  | cons entry l ih =>
    obtain ⟨_ | k, n⟩ := entry
    · cases h
    · rcases List.mem_cons.mp h with rfl | h
      · exact List.mem_cons_self
      · exact List.mem_cons_of_mem _ (ih h)

/-- A record that is decoded is read from parts of the document. -/
theorem read_of_decode {r : Record α} {n : Node} {a : α} (h : r.decode n = .ok a) :
    ∃ ms, r.read ms = .ok a ∧ ∀ m ∈ ms.entries, m.2 ∈ n.parts := by
  unfold decode at h
  split at h
  · refine ⟨_, read_of_readMembers h, fun m hm => ?_⟩
    exact List.mem_map.mpr ⟨_, mem_of_mem_named hm, rfl⟩
  · refine ⟨_, read_of_readMembers h, fun m hm => ?_⟩
    exact (List.of_mem_zip hm).2
  · exact ⟨_, read_of_readMembers h, nofun⟩
  · exact ⟨_, read_of_readMembers h, nofun⟩
  · cases h

end Record

end TrafficTrace.Document
