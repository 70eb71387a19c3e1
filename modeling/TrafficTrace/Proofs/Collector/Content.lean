import TrafficTrace.Collector.Batch
import TrafficTrace.Proofs.Json.Reading
import TrafficTrace.Proofs.Time.Written

/-!
# What identifies a batch

The bytes that are digested for the identifier of a batch tell its events: every event is written on
a line of its own, and different events have different texts. This holds of events as they can
come about, and every event that is read from a text is one of these.
-/
namespace TrafficTrace

/-- An event as it can come about: its moment is one of the calendar and the numbers of its payload
are in their only form. The types of the fields would admit others. -/
structure Event.IsWellFormed (e : Event) : Prop where
  moment : e.observedAt.isValid = true
  numbers : e.payload.IsCanonical

instance (e : Event) : Decidable e.IsWellFormed :=
  decidable_of_iff (e.observedAt.isValid = true ∧ e.payload.IsCanonical)
    ⟨fun ⟨a, b⟩ => ⟨a, b⟩, fun ⟨a, b⟩ => ⟨a, b⟩⟩

namespace Json

/-- A member that may be left out is told from the next one by its key. -/
theorem present_append_inj {key : String} {v w : Option Json} {l m : List (String × Json)}
    (hl : ∀ p ∈ l.head?, p.1 ≠ key) (hm : ∀ p ∈ m.head?, p.1 ≠ key)
    (h : present key v ++ l = present key w ++ m) : v = w ∧ l = m := by
  cases v with
  | none =>
    cases w with
    | none => exact ⟨rfl, h⟩
    | some k =>
      obtain rfl : l = (key, k) :: m := h
      exact absurd rfl (hl _ rfl)
  | some j =>
    cases w with
    | none =>
      obtain rfl : (key, j) :: l = m := h
      exact absurd rfl (hm _ rfl)
    | some k =>
      obtain ⟨same, rest⟩ := List.cons_eq_cons.mp h
      cases same
      exact ⟨rfl, rest⟩

end Json

theorem Direction.name_injective : Function.Injective Direction.name := by
  intro a b h
  cases a <;> cases b <;> first | rfl | exact absurd h (by decide)

theorem EventKind.name_injective : Function.Injective EventKind.name := by
  intro a b h
  cases a <;> cases b <;> first | rfl | exact absurd h (by decide)

namespace Event

open Json in
theorem toJson_injective {e f : Event} (he : e.IsWellFormed) (hf : f.IsWellFormed)
    (h : e.toJson = f.toJson) : e = f := by
  have str : Function.Injective Json.str := fun _ _ => Json.str.inj
  have num : Function.Injective Json.ofNat := fun _ _ h => Int.ofNat.inj (Json.int.inj h)
  obtain ⟨requestId, direction, kind, host, path, method, status, observedAt, payload⟩ := e
  obtain ⟨requestId', direction', kind', host', path', method', status', observedAt', payload'⟩ := f
  simp only [toJson, Json.obj.injEq, List.append_assoc] at h
  obtain ⟨identifier, rest⟩ := present_append_inj (by simp) (by simp) h
  simp only [List.cons_append, List.nil_append, List.cons.injEq, Prod.mk.injEq, Json.str.injEq,
    true_and] at rest
  obtain ⟨directions, kinds, rfl, rfl, rest⟩ := rest
  obtain ⟨methods, rest⟩ := present_append_inj (by cases status <;> simp [present])
    (by cases status' <;> simp [present]) rest
  obtain ⟨statuses, rest⟩ := present_append_inj (by simp) (by simp) rest
  simp only [List.cons.injEq, Prod.mk.injEq, true_and, and_true] at rest
  obtain ⟨moments, rfl⟩ := rest
  obtain rfl := Direction.name_injective directions
  obtain rfl := EventKind.name_injective kinds
  obtain rfl := Option.map_injective str identifier
  obtain rfl := Option.map_injective str methods
  obtain rfl := Option.map_injective num statuses
  have written := String.ofList_injective (str moments)
  obtain rfl := Timestamp.write_injective he.moment hf.moment written
  rfl

theorem isCanonical_toJson {e : Event} (h : e.IsWellFormed) : e.toJson.IsCanonical := by
  have payload := h.numbers
  obtain ⟨requestId, direction, kind, host, path, method, status, observedAt, payload⟩ := e
  cases requestId <;> cases method <;> cases status <;>
    simpa [toJson, Json.IsCanonical, Json.floats, Json.floatsOfMembers, Json.present, Json.ofNat,
      Timestamp.toJson] using payload

/-- Different events have different texts. -/
theorem toText_injective {e f : Event} (he : e.IsWellFormed) (hf : f.IsWellFormed)
    (h : e.toText = f.toText) : e = f :=
  toJson_injective he hf (Json.toText_injective (isCanonical_toJson he) (isCanonical_toJson hf) h)

theorem line_notMem_toText (e : Event) : '\n' ∉ e.toText.toList := by
  rw [toText, Json.toText, String.toList_ofList]
  exact Json.line_notMem_write e.toJson

end Event

/-! ### Events that were read -/

section Read

open Document

theorem Timestamp.isValid_of_decoder {n : Node} {t : Timestamp} (h : decoder n = .ok t) :
    t.isValid = true := by
  obtain ⟨s, -, h⟩ := bind_eq_ok h
  split at h
  · rename_i a read
    dsimp only at read
    split at read
    · rename_i found
      cases read
      cases h
      exact isValid_of_mem_read? _ t found
    · cases read
  · cases h

theorem Event.isWellFormed_of_record {ms : Members} {e : Event} (h : record.read ms = .ok e)
    (canonical : ∀ m ∈ ms.entries, m.2.IsCanonical) : e.IsWellFormed := by
  rw [record] at h
  obtain ⟨_, payload, h₁, last, rfl⟩ := Record.read_seq h
  obtain ⟨_, moment, h₂, before, rfl⟩ := Record.read_seq h₁
  -- the other fields may have any values
  obtain ⟨_, _, h₃, -, rfl⟩ := Record.read_seq h₂
  obtain ⟨_, _, h₄, -, rfl⟩ := Record.read_seq h₃
  obtain ⟨_, _, h₅, -, rfl⟩ := Record.read_seq h₄
  obtain ⟨_, _, h₆, -, rfl⟩ := Record.read_seq h₅
  obtain ⟨_, _, h₇, -, rfl⟩ := Record.read_seq h₆
  obtain ⟨_, _, h₈, -, rfl⟩ := Record.read_seq h₇
  obtain ⟨_, -, rfl⟩ := Record.read_map h₈
  refine ⟨?_, ?_⟩
  · rcases Record.read_field before with ⟨n, -, decoded⟩ | absent | absent
    · exact Timestamp.isValid_of_decoder decoded
    · cases absent
    · cases absent
  · rcases Record.read_field last with ⟨n, part, decoded⟩ | absent | absent
    · exact Json.isCanonical_of_json (canonical _ part) decoded
    · cases absent
    · cases absent
      exact nofun

/-- An event that is read is well formed. -/
theorem Event.isWellFormed_of_ofText {s : String} {e : Event} (h : ofText s = .ok e) :
    e.IsWellFormed := by
  obtain ⟨ms, read, parts⟩ := Record.read_of_decode (Json.decodeText_eq_ok h)
  refine isWellFormed_of_record read fun m hm => ?_
  exact Node.isCanonical_of_mem_parts (Json.isCanonical_readText s) (parts m hm)

end Read

/-- The bytes of a batch tell the texts of its events. -/
theorem texts_eq_of_batchContent {trace : TraceId} {xs ys : List Event}
    (h : batchContent trace xs = batchContent trace ys) :
    xs.map Event.toText = ys.map Event.toText := by
  have bytes (l : List Event) : (l.flatMap fun e => (e.toText ++ "\n").toUTF8.toList) =
      Text.utf8 (l.flatMap fun e => e.toText.toList ++ ['\n']) := by
    simp only [Text.toList_toUTF8, Text.utf8, List.flatMap_assoc, String.toList_append]
    rfl
  have lines := List.append_cancel_left h
  rw [bytes, bytes] at lines
  have texts := Text.map_eq_of_flatMap_lines (fun e : Event => e.toText.toList) '\n'
    Event.line_notMem_toText (Text.utf8_injective lines)
  refine List.map_injective_iff.mpr (fun _ _ => String.toList_injective) ?_
  rw [List.map_map, List.map_map]
  exact texts

/-- The bytes of a trace stand first and are as many for every trace. -/
theorem trace_eq_of_batchContent {t u : TraceId} {xs ys : List Event}
    (h : batchContent t xs = batchContent u ys) : t = u := by
  obtain ⟨⟨bytes, length⟩⟩ := t
  obtain ⟨⟨bytes', length'⟩⟩ := u
  obtain ⟨rfl, -⟩ := List.append_inj h (length.trans length'.symm)
  rfl

theorem batchContent_congr {trace : TraceId} {xs ys : List Event}
    (h : xs.map Event.toText = ys.map Event.toText) :
    batchContent trace xs = batchContent trace ys := by
  have lines (l : List Event) : (l.flatMap fun e => (e.toText ++ "\n").toUTF8.toList) =
      (l.map Event.toText).flatMap fun text => (text ++ "\n").toUTF8.toList := by
    rw [List.flatMap_map]
  rw [batchContent, batchContent, lines, lines, h]

/-- Well-formed events are told by their texts. -/
theorem Event.eq_of_map_toText {xs ys : List Event} (hx : ∀ e ∈ xs, e.IsWellFormed)
    (hy : ∀ e ∈ ys, e.IsWellFormed) (h : xs.map toText = ys.map toText) : xs = ys := by
  induction xs generalizing ys with
  | nil => exact (List.map_eq_nil_iff.mp h.symm).symm
  | cons e xs ih =>
    cases ys with
    | nil => cases h
    | cons f ys =>
      obtain ⟨text, texts⟩ := List.cons_eq_cons.mp h
      have same : e = f :=
        toText_injective (hx e List.mem_cons_self) (hy f List.mem_cons_self) text
      have rest : xs = ys := ih (fun x m => hx x (List.mem_cons_of_mem _ m))
        (fun y m => hy y (List.mem_cons_of_mem _ m)) texts
      rw [same, rest]

/-- Two batches are digested from the same bytes only if they go to the same trace and their events
have the same texts, one by one. Then they have the same events: nothing that stands in a field can
be taken for the end of the field, of the event or of its line. -/
theorem batchContent_tells_batch (t u : TraceId) (xs ys : List Event) :
    (batchContent t xs = batchContent u ys ↔
      t = u ∧ xs.map Event.toText = ys.map Event.toText) ∧
    ((∀ e ∈ xs ++ ys, e.IsWellFormed) → batchContent t xs = batchContent u ys →
      t = u ∧ xs = ys) := by
  have texts (h : batchContent t xs = batchContent u ys) :
      t = u ∧ xs.map Event.toText = ys.map Event.toText := by
    obtain rfl := trace_eq_of_batchContent h
    exact ⟨rfl, texts_eq_of_batchContent h⟩
  constructor
  · constructor
    · exact texts
    · rintro ⟨rfl, same⟩
      exact batchContent_congr same
  · intro wellFormed h
    obtain ⟨trace, same⟩ := texts h
    refine ⟨trace, Event.eq_of_map_toText (fun e he => ?_) (fun e he => ?_) same⟩
    · exact wellFormed e (List.mem_append_left _ he)
    · exact wellFormed e (List.mem_append_right _ he)

/-- A path that looks like the end of its event and the start of another one. -/
theorem batchContent_tells_batch_forged :
    let e (path : String) : Event := (Event.request "GET" "shop.example" path .epoch)
    let forged := "/a\"\x7d\n\x7b\"host\":\"shop.example\",\"path\":\"/b"
    (∀ x ∈ [e forged] ++ [e "/a", e "/b"], x.IsWellFormed) ∧
      batchContent .nil [e forged] ≠ batchContent .nil [e "/a", e "/b"] := by
  intro e forged
  have wellFormed : ∀ x ∈ [e forged] ++ [e "/a", e "/b"], x.IsWellFormed := by
    decide +kernel
  refine ⟨wellFormed, fun same => ?_⟩
  exact absurd ((batchContent_tells_batch .nil .nil _ _).2 wellFormed same).2 (by simp)

end TrafficTrace
