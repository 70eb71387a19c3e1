import TrafficTrace.Proofs.Document.Record
import TrafficTrace.Proofs.Document.Stability

/-!
# Records are written so that they are read again

A field is read from any object that has, under its name, what the field was written as. Fields with
different names therefore do not get into each other's way, and a record is read again from the object
in which each of its fields is written, left out, or null. Where every value of each field is read from
what is written for it, the same holds of every record, whether it has been read before or not.
-/
namespace TrafficTrace.Document

variable {α β : Type} {room : Nat}

theorem Node.within_of_mem_parts {n part : Node} (within : n.Within (room + 1))
    (h : part ∈ n.parts) : part.Within room := by
  unfold parts at h
  split at h
  · exact (within_array_iff.mp within).2 part h
  · obtain ⟨m, hm, rfl⟩ := List.mem_map.mp h
    exact (within_object_iff.mp within).2 m hm
  · cases h

namespace Record

/-- The members of an object, as a record reads them. -/
def membersOf (ms : List (String × Json)) : Members :=
  ⟨ms.map fun m => (m.1, Node.ofJson m.2), false, true⟩

variable {ms out : List (String × Json)} {name : String}

theorem locate_of_lookup {j : Json} (held : ms.lookup name = some j) (start : Nat) :
    ∃ place, locate name start (membersOf ms).entries = some (place, .ofJson j) := by
  induction ms generalizing start with
  | nil => cases held
  | cons m ms ih =>
    obtain ⟨k, i⟩ := m
    by_cases here : name = k
    · subst here
      rw [List.lookup_cons_self] at held
      obtain rfl := Option.some.inj held
      exact ⟨start, if_pos rfl⟩
    · rw [List.lookup_cons, beq_false_of_ne here] at held
      obtain ⟨place, located⟩ := ih held (start + 1)
      exact ⟨place, (if_neg (Ne.symm here)).trans located⟩

theorem locate_of_absent (absent : ms.lookup name = none) (start : Nat) :
    locate name start (membersOf ms).entries = none := by
  induction ms generalizing start with
  | nil => rfl
  | cons m ms ih =>
    obtain ⟨k, i⟩ := m
    by_cases here : name = k
    · subst here
      rw [List.lookup_cons_self] at absent
      cases absent
    · rw [List.lookup_cons, beq_false_of_ne here] at absent
      exact (if_neg (Ne.symm here)).trans (ih absent (start + 1))

theorem read_field_of_lookup {d : Decoder α} {absence : Absence α} {j : Json} {a : α}
    (held : ms.lookup name = some j) (decoded : d (.ofJson j) = .ok a) :
    (field name d absence).read (membersOf ms) = .ok a := by
  obtain ⟨place, located⟩ := locate_of_lookup held 0
  rw [field]
  simp only [located, decoded]
  rfl

theorem read_field_of_absent {d : Decoder α} {a : α} (absent : ms.lookup name = none) :
    (field name d (.default a)).read (membersOf ms) = .ok a := by
  have located := locate_of_absent absent 0
  rw [field]
  simp only [located]

/-- A field that may be null need not be there either. -/
theorem read_nullable_of_absent {d : Decoder α} (absent : ms.lookup name = none) :
    (nullable name d).read (membersOf ms) = .ok none := by
  have located := locate_of_absent absent 0
  rw [nullable, field]
  simp only [located]
  rfl

/-- A value is written as members from which its record reads it, whatever other members there are. -/
structure Answers (room : Nat) (r : Record α) (a : α) (out : List (String × Json)) : Prop where
  names : (out.map Prod.fst).Sublist r.names
  within : ∀ m ∈ out, (Node.ofJson m.2).Within room
  read : ∀ ms, (∀ name ∈ r.names, ms.lookup name = out.lookup name) → r.read (membersOf ms) = .ok a

theorem Answers.lookup_eq_none {r : Record α} {a : α} (h : Answers room r a out)
    (other : name ∉ r.names) : out.lookup name = none := by
  apply List.lookup_eq_none_iff.mpr
  intro m hm
  rw [bne_iff_ne]
  rintro rfl
  exact other (h.names.subset (List.mem_map_of_mem hm))

/-- What is read from parts of the given extent is what has been made of some values, and is written
as the members that belong to these values. -/
def Stable {ι : Type} (room : Nat) (r : Record α) (make : ι → α)
    (out : ι → List (String × Json)) : Prop :=
  r.names.Nodup → ∀ ms a, (∀ m ∈ ms.entries, m.2.Within room) → r.read ms = .ok a →
    ∃ i, make i = a ∧ Answers room r a (out i)

variable {ι κ : Type}

theorem Answers.map {r : Record α} {a : α} (h : Answers room r a out) (f : α → β) :
    Answers room (f <$> r) (f a) out where
  names := h.names
  within := h.within
  read ms agree := congrArg (Except.map f) (h.read ms agree)

theorem Stable.map {r : Record α} {make : ι → α} {out : ι → List (String × Json)}
    (h : r.Stable room make out) (f : α → β) :
    (f <$> r).Stable room (fun i => f (make i)) out := by
  intro nodup ms b within read
  obtain ⟨a, inner, rfl⟩ := read_map read
  obtain ⟨i, rfl, answers⟩ := h nodup ms a within inner
  exact ⟨i, rfl, answers.map f⟩

/-- The members of two records with different names do not get into each other's way. -/
theorem Answers.seq {r : Record (α → β)} {s : Record α} {f : α → β} {a : α}
    {out' : List (String × Json)} (h : Answers room r f out) (h' : Answers room s a out')
    (nodup : (r <*> s).names.Nodup) : Answers room (r <*> s) (f a) (out ++ out') := by
  obtain ⟨-, -, disjoint⟩ := List.nodup_append.mp nodup
  constructor
  · rw [List.map_append]
    exact h.names.append h'.names
  · exact List.forall_mem_append.mpr ⟨h.within, h'.within⟩
  · intro ms agree
    have own (name : String) (known : name ∈ r.names) : ms.lookup name = out.lookup name := by
      have none := h'.lookup_eq_none fun there => disjoint name known name there rfl
      rw [agree name (List.mem_append_left _ known), List.lookup_append, none, Option.or_none]
    have own' (name : String) (known : name ∈ s.names) : ms.lookup name = out'.lookup name := by
      have none := h.lookup_eq_none fun there => disjoint name there name known rfl
      rw [agree name (List.mem_append_right _ known), List.lookup_append, none, Option.none_or]
    have first := h.read ms own
    have second := h'.read ms own'
    change Except.map _ (Outcome.both (r.read (membersOf ms)) (s.read (membersOf ms))) = _
    rw [first, second]
    rfl

theorem Stable.seq {r : Record (α → β)} {s : Record α} {make : ι → α → β} {make' : κ → α}
    {out : ι → List (String × Json)} {out' : κ → List (String × Json)}
    (h : r.Stable room make out) (h' : s.Stable room make' out') :
    (r <*> s).Stable room (fun i : ι × κ => make i.1 (make' i.2))
      fun i => out i.1 ++ out' i.2 := by
  intro nodup ms b within read
  obtain ⟨left, right, -⟩ := List.nodup_append.mp nodup
  obtain ⟨g, a, first, second, rfl⟩ := read_seq read
  obtain ⟨i, rfl, answers⟩ := h left ms g within first
  obtain ⟨k, rfl, answers'⟩ := h' right ms a within second
  exact ⟨(i, k), rfl, answers.seq answers' nodup⟩

/-! ### Fields -/

theorem Answers.of_member {d : Decoder α} {absence : Absence α} {j : Json} {a : α}
    (within : (Node.ofJson j).Within room) (decoded : d (.ofJson j) = .ok a) :
    Answers room (field name d absence) a [(name, j)] where
  names := List.Sublist.refl _
  within := List.forall_mem_singleton.mpr within
  read ms agree := by
    have held : ms.lookup name = some j := by
      rw [agree name (List.mem_singleton.mpr rfl), List.lookup_cons_self]
    exact read_field_of_lookup held decoded

theorem Answers.of_absent {d : Decoder α} {a : α} :
    Answers room (field name d (.default a)) a [] where
  names := List.nil_sublist _
  within _ hm := absurd hm List.not_mem_nil
  read _ agree := read_field_of_absent (agree name (List.mem_singleton.mpr rfl))

variable {d : Decoder α} {write : α → Json}

theorem stable_required (name : String) (h : d.Stable room write) :
    (required name d).Stable room id fun a => [(name, write a)] := by
  intro _ ms a within read
  rcases read_field read with ⟨n, hn, decoded⟩ | absent | absent
  · obtain ⟨inside, again⟩ := h n a (within _ hn) decoded
    exact ⟨a, rfl, .of_member inside again⟩
  · cases absent
  · cases absent

/-- A field whose value is brought into another form that means the same. -/
theorem stable_normalized (name : String) (write : α → Json) {norm : α → α} {f : α → β}
    (h : ∀ n a, n.Within room → d n = .ok a →
      (Node.ofJson (write (norm a))).Within room ∧ d (.ofJson (write (norm a))) = .ok (norm a))
    (same : ∀ a, f (norm a) = f a) :
    (f <$> required name d).Stable room f fun a => [(name, write (norm a))] := by
  intro _ ms b within read
  obtain ⟨a, inner, rfl⟩ := read_map read
  rcases read_field inner with ⟨n, hn, decoded⟩ | absent | absent
  · obtain ⟨inside, again⟩ := h n a (within _ hn) decoded
    refine ⟨a, rfl, ?_⟩
    rw [← same a]
    exact (Answers.of_member inside again).map f
  · cases absent
  · cases absent

/-- A field whose value is either decoded, or the one for its absence. -/
theorem stable_of_default {value : α} {out : α → List (String × Json)} (h : d.Stable room write)
    (present : ∀ a, (Node.ofJson (write a)).Within room → d (.ofJson (write a)) = .ok a →
      Answers room (defaulted name d value) a (out a))
    (absent : Answers room (defaulted name d value) value (out value)) :
    (defaulted name d value).Stable room id out := by
  intro _ ms a within read
  rcases read_field read with ⟨n, hn, decoded⟩ | none | none
  · obtain ⟨inside, again⟩ := h n a (within _ hn) decoded
    exact ⟨a, rfl, present a inside again⟩
  · cases none
  · cases none
    exact ⟨value, rfl, absent⟩

theorem stable_defaulted (name : String) (value : α) (h : d.Stable room write)
    (inside : (Node.ofJson (write value)).Within room)
    (decoded : d (.ofJson (write value)) = .ok value) :
    (defaulted name d value).Stable room id fun a => [(name, write a)] :=
  stable_of_default h (fun _ inside again => .of_member inside again) (.of_member inside decoded)

/-- A list that is empty when it is absent. -/
theorem stable_list (name : String) (h : d.Stable room write) :
    (defaulted name (Decoder.list d) []).Stable (room + 1) id
      fun as => [(name, .arr (as.map write))] :=
  stable_defaulted name [] h.list ⟨Nat.succ_pos room, trivial⟩ rfl

/-- A field that is left out when it is empty, which stands for its absence. -/
theorem stable_omitted (name : String) {value : α} {empty : α → Bool} (h : d.Stable room write)
    (only : ∀ a, empty a = true ↔ a = value) :
    (defaulted name d value).Stable room id
      fun a => if empty a then [] else [(name, write a)] := by
  apply stable_of_default h
  · intro a inside again
    by_cases none : empty a = true
    · rw [if_pos none, (only a).mp none]
      exact .of_absent
    · rw [if_neg none]
      exact .of_member inside again
  · rw [if_pos ((only value).mpr rfl)]
    exact .of_absent

/-- A value that is never null is taken for one that is there. -/
theorem optional_ofJson {j : Json} {a : α} (decoded : d (.ofJson j) = .ok a)
    (nonnull : j ≠ .null) : Decoder.optional d (.ofJson j) = .ok (some a) := by
  cases j with
  | null => exact absurd rfl nonnull
  | _ => exact congrArg (Except.map some) decoded

theorem of_optional {n : Node} {o : Option α} (h : Decoder.optional d n = .ok o) :
    o = none ∨ ∃ a, o = some a ∧ d n = .ok a := by
  have of_map {n : Node} (h : (d n).map some = .ok o) : ∃ a, o = some a ∧ d n = .ok a := by
    cases decoded : d n with
    | error e =>
      rw [decoded] at h
      cases h
    | ok a =>
      rw [decoded] at h
      exact ⟨a, (Except.ok.inj h).symm, rfl⟩
  unfold Decoder.optional at h
  split at h
  · exact .inl (Except.ok.inj h).symm
  · split at h
    · exact .inl (Except.ok.inj h).symm
    · exact .inr (of_map h)
  · split at h
    · exact .inl (Except.ok.inj h).symm
    · cases h
  · exact .inr (of_map h)

/-- A field that is left out when it has no value. -/
theorem stable_optional (name : String) (h : d.Stable room write)
    (nonnull : ∀ a, write a ≠ .null) :
    (optional name d).Stable room id fun o => Json.present name (o.map write) := by
  intro _ ms o within read
  rcases read_field read with ⟨n, hn, decoded⟩ | absent | absent
  · rcases of_optional decoded with rfl | ⟨a, rfl, inner⟩
    · exact ⟨none, rfl, .of_absent⟩
    · obtain ⟨inside, again⟩ := h n a (within _ hn) inner
      exact ⟨some a, rfl, .of_member inside (optional_ofJson again (nonnull a))⟩
  · cases absent
  · cases absent
    exact ⟨none, rfl, .of_absent⟩

/-- A field that is null when it has no value. -/
theorem stable_optional_null (name : String) (h : d.Stable room write)
    (nonnull : ∀ a, write a ≠ .null) :
    (optional name d).Stable room id fun o => [(name, Json.orNull (o.map write))] := by
  have null : Answers room (optional name d) none [(name, .null)] := .of_member trivial rfl
  intro _ ms o within read
  rcases read_field read with ⟨n, hn, decoded⟩ | absent | absent
  · rcases of_optional decoded with rfl | ⟨a, rfl, inner⟩
    · exact ⟨none, rfl, null⟩
    · obtain ⟨inside, again⟩ := h n a (within _ hn) inner
      exact ⟨some a, rfl, .of_member inside (optional_ofJson again (nonnull a))⟩
  · cases absent
  · cases absent
    exact ⟨none, rfl, null⟩

/-! ### Objects -/

theorem named_ofJsonMembers (ms : List (String × Json)) :
    named (Node.ofJsonMembers ms) true = ((membersOf ms).entries, true) := by
  induction ms with
  | nil => rfl
  | cons m ms ih =>
    rw [Node.ofJsonMembers, named, ih]
    rfl

/-- Known names, each once, leave nothing to complain about. -/
theorem scan_membersOf {names seen : List String} (known : ∀ m ∈ ms, m.1 ∈ names)
    (distinct : (ms.map Prod.fst).Nodup) (new : ∀ m ∈ ms, m.1 ∉ seen) (place : Nat) :
    scan names seen place true (membersOf ms).entries = .ok () := by
  induction ms generalizing seen place with
  | nil => rfl
  | cons m ms ih =>
    obtain ⟨here, there⟩ := List.forall_mem_cons.mp known
    obtain ⟨unseen, later⟩ := List.forall_mem_cons.mp new
    obtain ⟨once, rest⟩ := List.nodup_cons.mp distinct
    have fresh : ∀ k ∈ ms, k.1 ∉ m.1 :: seen := by
      intro k hk
      rw [List.mem_cons, not_or]
      constructor
      · intro same
        exact once (same ▸ List.mem_map_of_mem hk)
      · exact later k hk
    change (if m.1 ∈ names then
        if m.1 ∈ seen then _
        else scan names (m.1 :: seen) (place + 1) true (membersOf ms).entries
      else _) = _
    rw [if_pos here, if_neg unseen]
    exact ih there rest fresh (place + 1)

theorem Answers.decode {r : Record α} {a : α} (h : Answers room r a out) (nodup : r.names.Nodup) :
    r.decode (.ofJson (.obj out)) = .ok a := by
  have known : ∀ m ∈ out, m.1 ∈ r.names :=
    fun m hm => h.names.subset (List.mem_map_of_mem hm)
  have scanned := scan_membersOf known (h.names.nodup nodup) (fun _ _ => List.not_mem_nil) 0
  have read := h.read out fun _ _ => rfl
  rw [Node.ofJson, Record.decode, named_ofJsonMembers]
  change r.readMembers (membersOf out) = .ok a
  have closed : (membersOf out).closed = true := rfl
  rw [readMembers, closed, scanned, read]
  rfl

end Record

/-- A record whose names are all different is decoded from the object of its fields. -/
theorem Record.Stable.decode {ι : Type} {r : Record α} {make : ι → α}
    {out : ι → List (String × Json)} {write : α → Json} (h : r.Stable room make out)
    (nodup : r.names.Nodup) (written : ∀ i, write (make i) = .obj (out i)) :
    Decoder.Stable (room + 1) r.decode write := by
  intro n a within decoded
  obtain ⟨ms, read, parts⟩ := Record.read_of_decode decoded
  have inside : ∀ m ∈ ms.entries, m.2.Within room := by
    intro m hm
    exact Node.within_of_mem_parts within (parts m hm)
  obtain ⟨i, rfl, answers⟩ := h nodup ms a inside read
  rw [written]
  constructor
  · exact Node.within_ofJson_obj_iff.mpr ⟨Nat.succ_pos room, answers.within⟩
  · exact answers.decode nodup

/-! ### Values that are read from what is written for them -/

/-- Every value is written as a document of the given extent, from which it is decoded. -/
def Decoder.Restores (room : Nat) (d : Decoder α) (write : α → Json) : Prop :=
  ∀ a, (Node.ofJson (write a)).Within room ∧ d (.ofJson (write a)) = .ok a

theorem Decoder.Restores.list {d : Decoder α} {write : α → Json} (h : d.Restores room write) :
    (Decoder.list d).Restores (room + 1) fun as => .arr (as.map write) := by
  intro as
  constructor
  · apply Node.within_ofJson_arr_iff.mpr
    refine ⟨Nat.succ_pos room, ?_⟩
    intro j hj
    obtain ⟨a, -, rfl⟩ := List.mem_map.mp hj
    exact (h a).1
  · rw [Node.ofJson, Decoder.list, Decoder.each_ofJson fun a _ => (h a).2]
    rfl

theorem Decoder.restores_text : Decoder.text.Restores room .str := fun _ => ⟨trivial, rfl⟩

theorem Decoder.restores_bool : Decoder.bool.Restores room .bool := fun _ => ⟨trivial, rfl⟩

namespace Record

variable {name : String}

/-- A record whose fields have different names reads a value from the members. -/
def Writes (room : Nat) (r : Record α) (a : α) (out : List (String × Json)) : Prop :=
  r.names.Nodup → Answers room r a out

theorem Writes.map {r : Record α} {a : α} {out : List (String × Json)} (h : r.Writes room a out)
    (f : α → β) : (f <$> r).Writes room (f a) out :=
  fun nodup => (h nodup).map f

theorem Writes.seq {r : Record (α → β)} {s : Record α} {f : α → β} {a : α}
    {out out' : List (String × Json)} (h : r.Writes room f out) (h' : s.Writes room a out') :
    (r <*> s).Writes room (f a) (out ++ out') := by
  intro nodup
  obtain ⟨left, right, -⟩ := List.nodup_append.mp nodup
  exact (h left).seq (h' right) nodup

/-- A field that may be null is left out if it has no value. -/
theorem writes_present {d : Decoder α} {write : α → Json} (h : d.Restores room write)
    (nonnull : ∀ a, write a ≠ .null) (o : Option α) :
    (nullable name d).Writes room o (Json.present name (o.map write)) := by
  intro _
  cases o with
  | none => exact ⟨List.nil_sublist _, nofun,
      fun _ agree => read_nullable_of_absent (agree name (List.mem_singleton.mpr rfl))⟩
  | some a => exact .of_member (h a).1 (optional_ofJson (h a).2 (nonnull a))

/-- A field that may be null is null if it has no value. -/
theorem writes_orNull {d : Decoder α} {write : α → Json} (h : d.Restores room write)
    (nonnull : ∀ a, write a ≠ .null) (o : Option α) :
    (nullable name d).Writes room o [(name, Json.orNull (o.map write))] := by
  intro _
  cases o with
  | none => exact .of_member trivial rfl
  | some a => exact .of_member (h a).1 (optional_ofJson (h a).2 (nonnull a))

theorem Writes.restores {r : Record α} {out : α → List (String × Json)}
    (h : ∀ a, r.Writes room a (out a)) (nodup : r.names.Nodup) :
    r.decode.Restores (room + 1) fun a => .obj (out a) := by
  intro a
  have answers := h a nodup
  constructor
  · exact Node.within_ofJson_obj_iff.mpr ⟨Nat.succ_pos room, answers.within⟩
  · exact answers.decode nodup

end Record

end TrafficTrace.Document
