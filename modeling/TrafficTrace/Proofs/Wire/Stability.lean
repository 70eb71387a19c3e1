import TrafficTrace.Proofs.Document.RecordStability
import TrafficTrace.Proofs.Time.Reading
import TrafficTrace.Proofs.Wire.Identifiers
import TrafficTrace.Wire.Service
import TrafficTrace.Wire.Spec

/-!
# Messages are written as they were read

Every message that was read is written as a text from which the same message is read. Absent members,
null, members of one name, other offsets and capital digits are gone after the first reading, and from
then on nothing changes.
-/
namespace TrafficTrace

open Document Record

variable {room : Nat}

/-! ### Parts of messages -/

theorem Timestamp.stable : decoder.Stable room toJson := by
  apply Decoder.stable_refined
  intro s t h
  cases found : ofText? s with
  | none =>
    rw [found] at h
    cases h
  | some u =>
    rw [found] at h
    obtain rfl := Except.ok.inj h
    rw [ofText?_toText (isValid_of_mem_read? _ u found)]

theorem Uuid.stable : decoder.Stable room toJson := by
  apply Decoder.stable_refined
  intro s u _
  rw [u.ofText?_toText]

theorem Id.stable {k : IdKind} : (decoder k).Stable room toJson := by
  apply Decoder.stable_refined
  intro s i _
  rw [ofText_toText]
  rfl

theorem Direction.stable : decoder.Stable room fun d => .str d.name :=
  Decoder.stable_variant (by decide)

theorem EventKind.stable : decoder.Stable room fun k => .str k.name :=
  Decoder.stable_variant (by decide)

theorem SpecState.stable : decoder.Stable room fun s => .str s.name :=
  Decoder.stable_variant (by decide)

theorem ResourceKind.stable : decoder.Stable room fun k => .str k.name :=
  Decoder.stable_variant (by decide)

theorem CreateSpecRequest.stable_texts :
    texts.Stable (room + 1) fun values => .arr (values.map .str) :=
  Decoder.stable_text.list

namespace TagSet

theorem eachMember_entries (ms : List (String × String)) :
    Decoder.eachMember Decoder.text (Node.ofJsonMembers (ms.map fun m => (m.1, .str m.2))) =
      .ok ms := by
  induction ms with
  | nil => rfl
  | cons m ms ih =>
    rw [List.map_cons, Node.ofJsonMembers, Decoder.eachMember, ih]
    rfl

theorem isEmpty_iff (t : TagSet) : t.isEmpty = true ↔ t = empty := by
  obtain ⟨entries, ascending⟩ := t
  simp [isEmpty, empty]

/-- Tags are in order, so that reading them leaves them in their places. -/
theorem decoder_toJson (t : TagSet) : decoder (.ofJson t.toJson) = .ok t := by
  have sorted : ofList t.entries = t := by
    obtain ⟨entries, ascending⟩ := t
    simp only [ofList, ofList_of_ascending ascending]
  have read : Decoder.members Decoder.text (.ofJson t.toJson) = .ok t.entries := by
    rw [toJson, Node.ofJson, Decoder.members, eachMember_entries]
    rfl
  rw [decoder, read]
  exact congrArg Except.ok sorted

theorem within_toJson (t : TagSet) : (Node.ofJson t.toJson).Within (room + 1) := by
  apply Node.within_ofJson_obj_iff.mpr
  refine ⟨Nat.succ_pos room, ?_⟩
  intro m hm
  obtain ⟨entry, -, rfl⟩ := List.mem_map.mp hm
  trivial

theorem stable : decoder.Stable (room + 1) toJson :=
  fun _ t _ _ => ⟨t.within_toJson, t.decoder_toJson⟩

end TagSet

/-! ### Messages -/

theorem ServiceSummary.stable : Decoder.Stable (room + 1) record.decode toJson :=
  (((stable_required "id" Id.stable).map mk).seq
    (stable_required "name" Decoder.stable_text)).decode (by decide) fun _ => rfl

theorem Heartbeat.stable : Decoder.Stable (room + 2) record.decode toJson :=
  (((((stable_required "client_id" Uuid.stable).map mk).seq
    (stable_required "cli_version" Decoder.stable_text)).seq
    (stable_required "active_traces" Id.stable.list)).seq
    (stable_required "sent_at" Timestamp.stable)).decode (by decide) fun _ => rfl

theorem TraceInfo.stable : Decoder.Stable (room + 2) record.decode toJson :=
  (((((((stable_required "id" Id.stable).map mk).seq
    (stable_required "service_id" Id.stable)).seq
    (stable_required "name" Decoder.stable_text)).seq
    (stable_defaulted "tags" TagSet.empty TagSet.stable ⟨Nat.succ_pos _, trivial⟩ rfl)).seq
    (stable_defaulted "active" false Decoder.stable_bool trivial rfl)).seq
    (stable_optional_null "created_at" Timestamp.stable nofun)).decode (by decide) fun _ => rfl

theorem CreateTraceRequest.stable : Decoder.Stable (room + 2) record.decode toJson :=
  ((((stable_required "name" Decoder.stable_text).map mk).seq
    (stable_omitted "tags" TagSet.stable TagSet.isEmpty_iff)).seq
    (stable_optional "base_spec" Id.stable nofun)).decode (by decide) fun _ => rfl

theorem Event.stable : Decoder.Stable (room + 1) record.decode toJson :=
  ((((((((((stable_optional "requestId" Decoder.stable_text nofun).map mk).seq
    (stable_required "direction" Direction.stable)).seq
    (stable_required "kind" EventKind.stable)).seq
    (stable_defaulted "host" "" Decoder.stable_text trivial rfl)).seq
    (stable_defaulted "path" "" Decoder.stable_text trivial rfl)).seq
    (stable_optional "method" Decoder.stable_text nofun)).seq
    (stable_optional "status" Decoder.stable_nat16 nofun)).seq
    (stable_required "observedAt" Timestamp.stable)).seq
    (stable_defaulted "payload" Json.null Decoder.stable_json trivial rfl)).decode (by decide)
    fun _ => by simp [toJson]

/-- What is known is read as a set, which reading leaves as it is. -/
theorem ActiveTraceQuery.stable : Decoder.Stable (room + 2) record.decode toJson := by
  let write (is : List TraceId) : Json := .arr (is.map Id.toJson)
  have known (n : Node) (is : List TraceId) (within : n.Within (room + 1))
      (decoded : Decoder.list (Id.decoder .trace) n = .ok is) :
      (Node.ofJson (write (Id.setOf is))).Within (room + 1) ∧
        Decoder.list (Id.decoder .trace) (.ofJson (write (Id.setOf is))) = .ok (Id.setOf is) :=
    Id.stable.list_of_subset within decoded (Id.setOf_subset is)
  have made (is : List TraceId) :
      (fun secs => mk (Id.setOf (Id.setOf is)) secs) = fun secs => mk (Id.setOf is) secs := by
    rw [Id.setOf_setOf]
  exact ((stable_normalized "known_active" write known made).seq
    (stable_required "timeout_secs" Decoder.stable_nat64)).decode (by decide) fun _ => rfl

theorem ActiveTraceDiff.stable : Decoder.Stable (room + 4) record.decode toJson :=
  (((stable_list "activated" TraceInfo.stable).map mk).seq
    (stable_list "deactivated" Id.stable)).decode (by decide) fun _ => rfl

theorem TraceActivity.stable : Decoder.Stable (room + 1) record.decode toJson :=
  ((stable_required "active" Decoder.stable_bool).map mk).decode (by decide) fun _ => rfl

theorem EventBatch.stable : Decoder.Stable (room + 3) record.decode toJson :=
  ((((stable_required "batch_id" Decoder.stable_text).map mk).seq
    (stable_required "client_id" Uuid.stable)).seq
    (stable_required "events" Event.stable.list)).decode (by decide) fun _ => rfl

theorem AppendResponse.stable : Decoder.Stable (room + 1) record.decode toJson :=
  ((stable_defaulted "accepted" 0 Decoder.stable_nat64 (Decoder.within_ofNat (by decide))
    (Decoder.nat_ofNat (by decide))).map mk).decode (by decide) fun _ => rfl

theorem VersionRange.stable : Decoder.Stable (room + 1) record.decode toJson :=
  (((stable_optional "from" Decoder.stable_text nofun).map mk).seq
    (stable_optional "to" Decoder.stable_text nofun)).decode (by decide) fun _ => rfl

theorem CreateSpecRequest.stable : Decoder.Stable (room + 2) record.decode toJson :=
  ((((((((stable_required "traces" Id.stable.list).map mk).seq
    (stable_optional "name" Decoder.stable_text nofun)).seq
    (stable_omitted "path_patterns" stable_texts fun _ => List.isEmpty_iff)).seq
    (stable_omitted "path_exclusions" stable_texts fun _ => List.isEmpty_iff)).seq
    (stable_omitted "host_exclusions" stable_texts fun _ => List.isEmpty_iff)).seq
    (stable_omitted "tags" TagSet.stable TagSet.isEmpty_iff)).seq
    (stable_optional "versions" VersionRange.stable nofun)).decode (by decide)
    fun _ => by simp [toJson, unlessEmpty]

theorem CreateSpecResponse.stable : Decoder.Stable (room + 1) record.decode toJson :=
  ((stable_required "id" Id.stable).map mk).decode (by decide) fun _ => rfl

theorem SpecInfo.stable : Decoder.Stable (room + 2) record.decode toJson :=
  ((((((((stable_required "id" Id.stable).map mk).seq
    (stable_required "name" Decoder.stable_text)).seq
    (stable_required "state" SpecState.stable)).seq
    (stable_defaulted "content" "" Decoder.stable_text trivial rfl)).seq
    (stable_defaulted "tags" TagSet.empty TagSet.stable ⟨Nat.succ_pos _, trivial⟩ rfl)).seq
    (stable_list "version_labels" Decoder.stable_text)).seq
    (stable_optional_null "created_at" Timestamp.stable nofun)).decode (by decide) fun _ => rfl

theorem ResolvedName.stable : Decoder.Stable (room + 1) record.decode toJson :=
  ((stable_required "id" Decoder.stable_text).map mk).decode (by decide) fun _ => rfl

theorem EndpointChange.stable : Decoder.Stable (room + 1) record.decode toJson :=
  ((((stable_required "method" Decoder.stable_text).map mk).seq
    (stable_required "path" Decoder.stable_text)).seq
    (stable_required "change" Decoder.stable_text)).decode (by decide) fun _ => rfl

theorem SpecDiff.stable : Decoder.Stable (room + 3) record.decode toJson :=
  ((((stable_list "added" EndpointChange.stable).map mk).seq
    (stable_list "removed" EndpointChange.stable)).seq
    (stable_list "modified" EndpointChange.stable)).decode (by decide) fun _ => rfl

/-! ### Numbers in messages -/

namespace Json

variable {α : Type} {name : String} {write : α → Json}

attribute [simp] floats floatsOfItems floatsOfMembers

@[simp] theorem floats_ofNat (n : Nat) : (ofNat n).floats = [] := rfl

@[simp] theorem floatsOfItems_map_eq_nil_iff {as : List α} :
    floatsOfItems (as.map write) = [] ↔ ∀ a ∈ as, (write a).floats = [] := by
  induction as with
  | nil => simp
  | cons a as ih => simp [ih]

@[simp] theorem floatsOfMembers_append (ms ns : List (String × Json)) :
    floatsOfMembers (ms ++ ns) = floatsOfMembers ms ++ floatsOfMembers ns := by
  induction ms with
  | nil => rfl
  | cons m ms ih => simp [ih]

@[simp] theorem floatsOfMembers_present_eq_nil_iff {o : Option α} :
    floatsOfMembers (present name (o.map write)) = [] ↔ ∀ a ∈ o, (write a).floats = [] := by
  cases o with
  | none => simp [present]
  | some a => simp [present]

@[simp] theorem floats_orNull_eq_nil_iff {o : Option α} :
    (orNull (o.map write)).floats = [] ↔ ∀ a ∈ o, (write a).floats = [] := by
  cases o with
  | none => simp [orNull]
  | some a => simp [orNull]

/-- Members that may be left out. -/
@[simp] theorem floatsOfMembers_ite_eq_nil {c : Prop} [Decidable c] {ms : List (String × Json)}
    (h : floatsOfMembers ms = []) : floatsOfMembers (if c then [] else ms) = [] := by
  split
  · rfl
  · exact h

end Json

@[simp] theorem Timestamp.floats_toJson (t : Timestamp) : t.toJson.floats = [] := rfl

@[simp] theorem Uuid.floats_toJson (u : Uuid) : u.toJson.floats = [] := rfl

@[simp] theorem Id.floats_toJson {k : IdKind} (i : Id k) : i.toJson.floats = [] := rfl

@[simp] theorem TagSet.floats_toJson (t : TagSet) : t.toJson.floats = [] := by
  rw [toJson, Json.floats]
  induction t.entries with
  | nil => rfl
  | cons m ms ih => simpa using ih

@[simp] theorem TraceInfo.floats_toJson (t : TraceInfo) : t.toJson.floats = [] := by simp [toJson]

@[simp] theorem VersionRange.floats_toJson (r : VersionRange) : r.toJson.floats = [] := by
  simp [toJson]

@[simp] theorem EndpointChange.floats_toJson (c : EndpointChange) : c.toJson.floats = [] := by
  simp [toJson]

/-- An event has no other numbers than its status and those of its payload. -/
@[simp] theorem Event.floats_toJson_eq_nil_iff {e : Event} :
    e.toJson.floats = [] ↔ e.payload.floats = [] := by
  simp [toJson]

/-! ### Hops -/

/-- Every message that was read is written as a text from which the same message is read, and which
is the same text after any number of further hops. Payloads are taken to have no numbers but integers;
these have at most 64 bits, because they were read. -/
theorem messages_settle :
    (∀ d, Decoder.Settles Direction.decoder (fun d => .str d.name) d) ∧
      (∀ k, Decoder.Settles EventKind.decoder (fun k => .str k.name) k) ∧
      (∀ e : Event, e.payload.floats = [] → Decoder.Settles Event.decoder Event.toJson e) ∧
      (∀ k (i : Id k), Decoder.Settles (Id.decoder k) Id.toJson i) ∧
      (∀ t, Decoder.Settles TagSet.decoder TagSet.toJson t) ∧
      (∀ k, Decoder.Settles ResourceKind.decoder (fun k => .str k.name) k) ∧
      (∀ s, Decoder.Settles ServiceSummary.record.decode ServiceSummary.toJson s) ∧
      (∀ h, Decoder.Settles Heartbeat.record.decode Heartbeat.toJson h) ∧
      (∀ q, Decoder.Settles ActiveTraceQuery.record.decode ActiveTraceQuery.toJson q) ∧
      (∀ d, Decoder.Settles ActiveTraceDiff.record.decode ActiveTraceDiff.toJson d) ∧
      (∀ a, Decoder.Settles TraceActivity.record.decode TraceActivity.toJson a) ∧
      (∀ t, Decoder.Settles TraceInfo.record.decode TraceInfo.toJson t) ∧
      (∀ r, Decoder.Settles CreateTraceRequest.record.decode CreateTraceRequest.toJson r) ∧
      (∀ b : EventBatch, (∀ e ∈ b.events, e.payload.floats = []) →
        Decoder.Settles EventBatch.record.decode EventBatch.toJson b) ∧
      (∀ r, Decoder.Settles AppendResponse.record.decode AppendResponse.toJson r) ∧
      (∀ r, Decoder.Settles VersionRange.record.decode VersionRange.toJson r) ∧
      (∀ r, Decoder.Settles CreateSpecRequest.record.decode CreateSpecRequest.toJson r) ∧
      (∀ r, Decoder.Settles CreateSpecResponse.record.decode CreateSpecResponse.toJson r) ∧
      (∀ s, Decoder.Settles SpecState.decoder (fun s => .str s.name) s) ∧
      (∀ s, Decoder.Settles SpecInfo.record.decode SpecInfo.toJson s) ∧
      (∀ r, Decoder.Settles ResolvedName.record.decode ResolvedName.toJson r) ∧
      (∀ c, Decoder.Settles EndpointChange.record.decode EndpointChange.toJson c) ∧
      ∀ d, Decoder.Settles SpecDiff.record.decode SpecDiff.toJson d := by
  refine ⟨fun _ => Direction.stable.settles rfl, fun _ => EventKind.stable.settles rfl,
    fun _ whole => Event.stable.settles (Event.floats_toJson_eq_nil_iff.mpr whole),
    fun _ _ => Id.stable.settles rfl, fun t => TagSet.stable.settles t.floats_toJson,
    fun _ => ResourceKind.stable.settles rfl, fun _ => ServiceSummary.stable.settles ?_,
    fun _ => Heartbeat.stable.settles ?_, fun _ => ActiveTraceQuery.stable.settles ?_,
    fun _ => ActiveTraceDiff.stable.settles ?_, fun _ => TraceActivity.stable.settles rfl,
    fun t => TraceInfo.stable.settles t.floats_toJson,
    fun _ => CreateTraceRequest.stable.settles ?_, fun _ whole => EventBatch.stable.settles ?_,
    fun _ => AppendResponse.stable.settles rfl, fun r => VersionRange.stable.settles r.floats_toJson,
    fun _ => CreateSpecRequest.stable.settles ?_, fun _ => CreateSpecResponse.stable.settles rfl,
    fun _ => SpecState.stable.settles rfl, fun _ => SpecInfo.stable.settles ?_,
    fun _ => ResolvedName.stable.settles rfl, fun c => EndpointChange.stable.settles c.floats_toJson,
    fun _ => SpecDiff.stable.settles ?_⟩
  · rfl
  · simp [Heartbeat.toJson]
  · simp [ActiveTraceQuery.toJson]
  · simp [ActiveTraceDiff.toJson]
  · simp [CreateTraceRequest.toJson]
  · simpa [EventBatch.toJson] using whole
  · simp [CreateSpecRequest.toJson, CreateSpecRequest.unlessEmpty]
  · simp [SpecInfo.toJson]
  · simp [SpecDiff.toJson]

/-- An event with an offset, a null, absent fields, an unknown one, and a payload in which a key comes
twice. All of that is settled by the first hop. -/
theorem messages_settle_untidy :
    let text := "\x7b\"kind\": \"request\", \"direction\": \"inbound\", " ++
      "\"status\": null, \"seen\": 1.5, \"observedAt\": \"2024-03-01T01:30:00+02:00\", " ++
      "\"payload\": \x7b\"b\": 1, \"a\": [-2, \x7b\x7d], \"b\": 18446744073709551615\x7d\x7d"
    let tidy := "\x7b\"direction\":\"inbound\",\"kind\":\"request\",\"host\":\"\",\"path\":\"\"," ++
      "\"observedAt\":\"2024-02-29T23:30:00Z\"," ++
      "\"payload\":\x7b\"a\":[-2,\x7b\x7d],\"b\":18446744073709551615\x7d\x7d"
    let e : Event := ⟨none, .inbound, .request, "", "", none, none, ⟨⟨2024, 2, 29⟩, 23, 30, 0, 0⟩,
      .obj [("a", .arr [.int (-2), .obj []]), ("b", .int 18446744073709551615)]⟩
    Json.decodeText Event.decoder text = .ok e ∧ e.payload.floats = [] ∧
      Json.decodeText Event.decoder tidy = .ok e ∧
      ∀ hops, Decoder.relays Event.decoder Event.toJson (hops + 1) text = .ok tidy := by
  intro text tidy e
  have decoded : Json.decodeText Event.decoder text = .ok e := by decide +kernel
  have whole : e.payload.floats = [] := rfl
  have written : e.toJson.toText = tidy := by decide +kernel
  obtain ⟨-, -, events, -⟩ := messages_settle
  obtain ⟨again, hops⟩ := events e whole text decoded
  rw [written] at again hops
  exact ⟨decoded, whole, again, hops⟩

end TrafficTrace
