import TrafficTrace.Proofs.Document.Extent
import TrafficTrace.Proofs.Json.Reading
import TrafficTrace.Proofs.Json.RoundTrip

/-!
# What is decoded is written so that it is decoded again

A decoder and the way in which its values are written fit each other when a value that was decoded is
written as a document that decodes to this value. Lists keep that, and so do values of any kind. The
written document is no deeper than what can be read, so that the same holds of texts.
-/
namespace TrafficTrace.Document

variable {α β : Type} {room : Nat}

/-- What is decoded from a document of the given extent is written as such a document, from which it
is decoded again. -/
def Decoder.Stable (room : Nat) (d : Decoder α) (write : α → Json) : Prop :=
  ∀ n a, n.Within room → d n = .ok a →
    (Node.ofJson (write a)).Within room ∧ d (.ofJson (write a)) = .ok a

namespace Decoder

/-- One hop: a text is decoded, and what was read is written again. -/
def relay (d : Decoder α) (write : α → Json) (s : String) : Except DecodeError String :=
  (Json.decodeText d s).map fun a => (write a).toText

/-- That many hops, one after the other. -/
def relays (d : Decoder α) (write : α → Json) : Nat → String → Except DecodeError String
  | 0, s => .ok s
  | hops + 1, s => relay d write s >>= relays d write hops

/-- From every text that holds the value, it is written as a text that holds this value too, and
that no number of further hops changes. -/
def Settles (d : Decoder α) (write : α → Json) (a : α) : Prop :=
  ∀ s, Json.decodeText d s = .ok a →
    Json.decodeText d (write a).toText = .ok a ∧
      ∀ hops, relays d write (hops + 1) s = .ok (write a).toText

/-- What was decoded from a text is decoded from the text that is written for it. -/
theorem Stable.decodeText {d : Decoder α} {write : α → Json} (h : d.Stable Json.depthLimit write)
    {s : String} {a : α} (decoded : Json.decodeText d s = .ok a) (whole : (write a).floats = []) :
    Json.decodeText d (write a).toText = .ok a := by
  obtain ⟨within, again⟩ :=
    h _ a (Json.within_readText s) (Json.decodeText_eq_ok decoded)
  rw [Json.decodeText, Json.readText_toText within whole]
  simp only [again]
  rfl

theorem relays_succ_of_decodeText {d : Decoder α} {write : α → Json} {s : String} {a : α}
    (decoded : Json.decodeText d s = .ok a) (again : Json.decodeText d (write a).toText = .ok a)
    (hops : Nat) : relays d write (hops + 1) s = .ok (write a).toText := by
  have hop {t : String} (h : Json.decodeText d t = .ok a) :
      relay d write t = .ok (write a).toText := by
    rw [relay, h]
    rfl
  induction hops generalizing s with
  | zero =>
    rw [relays, hop decoded]
    rfl
  | succ hops ih =>
    rw [relays, hop decoded]
    exact ih again

theorem Stable.settles {d : Decoder α} {write : α → Json} (h : d.Stable Json.depthLimit write)
    {a : α} (whole : (write a).floats = []) : Settles d write a := by
  intro s decoded
  have again := h.decodeText decoded whole
  exact ⟨again, relays_succ_of_decodeText decoded again⟩

/-! ### Scalars -/

theorem stable_text : text.Stable room .str := fun _ _ _ _ => ⟨trivial, rfl⟩

theorem stable_bool : bool.Stable room .bool := fun _ _ _ _ => ⟨trivial, rfl⟩

theorem lt_of_nat_plain {limit m : Nat} {s : String} (h : nat limit (.plain s) = .ok m) :
    m < limit := by
  rw [nat] at h
  split at h
  · split at h
    · cases h
      assumption
    · cases h
  · cases h

theorem lt_of_nat {limit m : Nat} {n : Node} (h : nat limit n = .ok m) : m < limit := by
  unfold nat at h
  split at h
  · split at h
    · cases h
      omega
    · cases h
  · exact lt_of_nat_plain h
  · exact lt_of_nat_plain h
  · exact lt_of_nat_plain h
  · cases h

theorem nat_ofNat {limit m : Nat} (small : m < limit) :
    nat limit (.ofJson (.ofNat m)) = .ok m := by
  change (if 0 ≤ (m : Int) ∧ (m : Int) < limit then Except.ok (m : Int).toNat else _) = _
  rw [if_pos (by omega), Int.toNat_natCast]

theorem within_ofNat {m : Nat} (small : m < UInt64.size) :
    (Node.ofJson (.ofNat m)).Within room := by
  have size : UInt64.size = 18446744073709551616 := rfl
  change -9223372036854775808 ≤ (m : Int) ∧ (m : Int) < 18446744073709551616
  omega

theorem stable_nat {limit : Nat} (word : limit ≤ UInt64.size) :
    (nat limit).Stable room .ofNat := by
  intro n m _ h
  have small := lt_of_nat h
  constructor
  · exact within_ofNat (Nat.lt_of_lt_of_le small word)
  · exact nat_ofNat small

theorem stable_nat16 : nat16.Stable room .ofNat := stable_nat (by decide)

theorem stable_nat64 : nat64.Stable room .ofNat := stable_nat (Nat.le_refl _)

theorem exists_of_refined {read : String → Except String α} {n : Node} {a : α}
    (h : refined read n = .ok a) : ∃ s, read s = .ok a := by
  obtain ⟨s, -, accepted⟩ := bind_eq_ok h
  cases result : read s with
  | error reason =>
    rw [result] at accepted
    cases accepted
  | ok b =>
    rw [result] at accepted
    obtain rfl := Except.ok.inj accepted
    exact ⟨s, result⟩

/-- A reader of texts that reads the text of what it has read. -/
theorem stable_refined {read : String → Except String α} {write : α → String}
    (back : ∀ s a, read s = .ok a → read (write a) = .ok a) :
    (refined read).Stable room fun a => .str (write a) := by
  intro n a _ h
  obtain ⟨s, accepted⟩ := exists_of_refined h
  have again := back s a accepted
  refine ⟨trivial, ?_⟩
  simp [Node.ofJson, refined, text, again, bind, Except.bind, pure, Except.pure]

theorem lookup_of_variant_string {table : List (String × α)} {s : String} {a : α}
    (h : variant table (.string (some s)) = .ok a) : table.lookup s = some a := by
  rw [variant] at h
  dsimp only at h
  split at h
  · cases h
    assumption
  · cases h

theorem mem_of_variant {table : List (String × α)} {n : Node} {a : α}
    (h : variant table n = .ok a) : ∃ s, table.lookup s = some a := by
  unfold variant at h
  dsimp only at h
  split at h
  · exact ⟨_, lookup_of_variant_string h⟩
  · exact ⟨_, lookup_of_variant_string h⟩
  · exact ⟨_, lookup_of_variant_string h⟩
  · exact ⟨_, lookup_of_variant_string h⟩
  · obtain ⟨b, first, h⟩ := bind_eq_ok h
    split at h
    · cases h
      exact ⟨_, lookup_of_variant_string first⟩
    · cases h
  · cases h

/-- Each case is found under its name. -/
theorem stable_variant {table : List (String × α)} {name : α → String}
    (named : ∀ c ∈ table, table.lookup (name c.2) = some c.2) :
    (variant table).Stable room fun a => .str (name a) := by
  intro n a _ h
  obtain ⟨s, held⟩ := mem_of_variant h
  obtain ⟨before, after, rfl, -⟩ := List.lookup_eq_some_iff.mp held
  have again := named (s, a) (by simp)
  refine ⟨trivial, ?_⟩
  rw [Node.ofJson, variant]
  simp only [again]

/-! ### Lists -/

theorem each_eq_ok {d : Decoder α} {ns : List Node} {as : List α} (h : each d ns = .ok as) :
    ∀ a ∈ as, ∃ n ∈ ns, d n = .ok a := by
  induction ns generalizing as with
  | nil =>
    obtain rfl := Except.ok.inj h
    exact nofun
  | cons n ns ih =>
    rw [each] at h
    obtain ⟨a, first, h⟩ := bind_eq_ok h
    obtain ⟨rest, others, h⟩ := bind_eq_ok h
    obtain rfl := Except.ok.inj h
    intro b hb
    rcases List.mem_cons.mp hb with rfl | hb
    · exact ⟨n, List.mem_cons_self, first⟩
    · obtain ⟨m, hm, decoded⟩ := ih others b hb
      exact ⟨m, List.mem_cons_of_mem _ hm, decoded⟩

theorem each_ofJson {d : Decoder α} {write : α → Json} {as : List α}
    (h : ∀ a ∈ as, d (.ofJson (write a)) = .ok a) :
    each d (Node.ofJsonItems (as.map write)) = .ok as := by
  induction as with
  | nil => rfl
  | cons a as ih =>
    obtain ⟨first, others⟩ := List.forall_mem_cons.mp h
    rw [List.map_cons, Node.ofJsonItems, each, first, ih others]
    rfl

/-- The parts of a list have come from the items of the document. -/
theorem exists_of_list {d : Decoder α} {n : Node} {as : List α} (within : n.Within (room + 1))
    (h : list d n = .ok as) : ∀ a ∈ as, ∃ m, m.Within room ∧ d m = .ok a := by
  unfold list at h
  split at h
  · obtain ⟨bs, decoded, h⟩ := bind_eq_ok h
    split at h
    · obtain rfl := Except.ok.inj h
      intro a ha
      obtain ⟨m, hm, decoded⟩ := each_eq_ok decoded a ha
      exact ⟨m, (Node.within_array_iff.mp within).2 m hm, decoded⟩
    · cases h
  · obtain ⟨bs, decoded, h⟩ := bind_eq_ok h
    split at h
    · obtain rfl := Except.ok.inj h
      intro a ha
      obtain ⟨m, hm, decoded⟩ := each_eq_ok decoded a ha
      exact ⟨m, (Node.within_sequence_iff.mp within).2 m hm, decoded⟩
    · cases h
  · obtain rfl := Except.ok.inj h
    exact nofun
  · obtain rfl := Except.ok.inj h
    exact nofun
  · cases h

/-- Any of the values that were decoded are written as a list of them. -/
theorem Stable.list_of_subset {d : Decoder α} {write : α → Json} (h : d.Stable room write)
    {n : Node} {as kept : List α} (within : n.Within (room + 1)) (decoded : list d n = .ok as)
    (subset : kept ⊆ as) :
    (Node.ofJson (.arr (kept.map write))).Within (room + 1) ∧
      list d (.ofJson (.arr (kept.map write))) = .ok kept := by
  have each (a : α) (ha : a ∈ kept) :
      (Node.ofJson (write a)).Within room ∧ d (.ofJson (write a)) = .ok a := by
    obtain ⟨m, inside, part⟩ := exists_of_list within decoded a (subset ha)
    exact h m a inside part
  constructor
  · apply Node.within_ofJson_arr_iff.mpr
    refine ⟨Nat.succ_pos room, ?_⟩
    intro j hj
    obtain ⟨a, ha, rfl⟩ := List.mem_map.mp hj
    exact (each a ha).1
  · rw [Node.ofJson, Decoder.list, each_ofJson fun a ha => (each a ha).2]
    rfl

theorem Stable.list {d : Decoder α} {write : α → Json} (h : d.Stable room write) :
    (list d).Stable (room + 1) fun as => .arr (as.map write) :=
  fun _ as within decoded => h.list_of_subset within decoded (List.Subset.refl as)

end Decoder

/-! ### Values of any kind -/

/-- A pair whose key comes after all others is put at the end. -/
theorem insert_of_lt {key : String} {value : α} {ms : List (String × α)}
    (h : ∀ m ∈ ms, m.1 < key) : Keyed.insert key value ms = ms ++ [(key, value)] := by
  induction ms with
  | nil => rfl
  | cons m ms ih =>
    obtain ⟨k, v⟩ := m
    obtain ⟨first, others⟩ := List.forall_mem_cons.mp h
    have later : ¬ key < k := fun earlier => String.lt_irrefl _ (String.lt_trans earlier first)
    have other : key ≠ k := (String.ne_of_lt first).symm
    rw [Keyed.insert, if_neg later, if_neg other, ih others, List.cons_append]

/-- Pairs in ascending order are left as they are. -/
theorem ofList_of_ascending {ms : List (String × α)} (h : ms.Pairwise (·.1 < ·.1)) :
    Keyed.ofList ms = ms := by
  induction ms using List.reverseRecOn with
  | nil => rfl
  | append_singleton ms m ih =>
    obtain ⟨before, -, order⟩ := List.pairwise_append.mp h
    have last : ∀ k ∈ ms, k.1 < m.1 := fun k hk => order k hk m (List.mem_singleton.mpr rfl)
    have here : Keyed.ofList (ms ++ [m]) = Keyed.insert m.1 m.2 (Keyed.ofList ms) := by
      rw [Keyed.ofList, List.foldl_append]
      rfl
    rw [here, ih before, insert_of_lt last]

namespace Decoder

theorem jsonItems_ofJson {js : List Json} (h : ∀ j ∈ js, json (.ofJson j) = .ok j) :
    jsonItems (Node.ofJsonItems js) = .ok js := by
  induction js with
  | nil => rfl
  | cons j js ih =>
    obtain ⟨first, others⟩ := List.forall_mem_cons.mp h
    rw [Node.ofJsonItems, jsonItems, first, ih others]
    rfl

theorem jsonMembers_ofJson {ms : List (String × Json)}
    (h : ∀ m ∈ ms, json (.ofJson m.2) = .ok m.2) :
    jsonMembers (Node.ofJsonMembers ms) = .ok ms := by
  induction ms with
  | nil => rfl
  | cons m ms ih =>
    obtain ⟨first, others⟩ := List.forall_mem_cons.mp h
    rw [Node.ofJsonMembers, jsonMembers, first, ih others]
    rfl

mutual
/-- Values keep their extent, and sorting their members again changes nothing. -/
theorem stable_json_at (n : Node) {room : Nat} {j : Json} (within : n.Within room)
    (h : json n = .ok j) : (Node.ofJson j).Within room ∧ json (.ofJson j) = .ok j := by
  match n with
  | .null | .bool _ | .number (some (.float _)) | .string (some _) | .plain _ | .tagged _ _
  | .lines _ _ =>
    obtain rfl := Except.ok.inj h
    exact ⟨trivial, rfl⟩
  | .number (some (.int n)) =>
    obtain rfl := Except.ok.inj h
    exact ⟨within, rfl⟩
  | .array items true =>
    rw [json] at h
    obtain ⟨js, decoded, h⟩ := bind_eq_ok h
    obtain rfl := Except.ok.inj h
    obtain ⟨left, inner⟩ := Node.within_array_iff.mp within
    have each := stable_jsonItems items inner decoded
    constructor
    · exact Node.within_ofJson_arr_iff.mpr ⟨left, fun j hj => (each j hj).1⟩
    · rw [Node.ofJson, json, jsonItems_ofJson fun j hj => (each j hj).2]
      rfl
  | .sequence items true =>
    rw [json] at h
    obtain ⟨js, decoded, h⟩ := bind_eq_ok h
    obtain rfl := Except.ok.inj h
    obtain ⟨left, inner⟩ := Node.within_sequence_iff.mp within
    have each := stable_jsonItems items inner decoded
    constructor
    · exact Node.within_ofJson_arr_iff.mpr ⟨left, fun j hj => (each j hj).1⟩
    · rw [Node.ofJson, json, jsonItems_ofJson fun j hj => (each j hj).2]
      rfl
  | .object ms true =>
    rw [json] at h
    obtain ⟨members, decoded, h⟩ := bind_eq_ok h
    obtain rfl := Except.ok.inj h
    obtain ⟨left, inner⟩ := Node.within_object_iff.mp within
    have each (m : String × Json) (hm : m ∈ Keyed.ofList members) :=
      stable_jsonMembers ms inner decoded m (Json.mem_of_mem_ofList hm)
    have sorted : Keyed.ofList (Keyed.ofList members) = Keyed.ofList members :=
      ofList_of_ascending (Keyed.pairwise_ofList members)
    constructor
    · exact Node.within_ofJson_obj_iff.mpr ⟨left, fun m hm => (each m hm).1⟩
    · rw [Node.ofJson, json, jsonMembers_ofJson fun m hm => (each m hm).2]
      exact congrArg (fun ms => Except.ok (Json.obj ms)) sorted
  | .array _ false | .sequence _ false | .object _ false =>
    rw [json] at h
    obtain ⟨_, -, h⟩ := bind_eq_ok h
    cases h
  | .number none | .string none | .deep _ | .fault => cases h

theorem stable_jsonItems (ns : List Node) {room : Nat} {js : List Json}
    (within : ∀ n ∈ ns, n.Within room) (h : jsonItems ns = .ok js) :
    ∀ j ∈ js, (Node.ofJson j).Within room ∧ json (.ofJson j) = .ok j := by
  match ns with
  | [] =>
    obtain rfl := Except.ok.inj h
    exact nofun
  | n :: ns =>
    obtain ⟨here, there⟩ := List.forall_mem_cons.mp within
    rw [jsonItems] at h
    obtain ⟨j, first, h⟩ := bind_eq_ok h
    obtain ⟨rest, others, h⟩ := bind_eq_ok h
    obtain rfl := Except.ok.inj h
    intro k hk
    rcases List.mem_cons.mp hk with rfl | hk
    · exact stable_json_at n here first
    · exact stable_jsonItems ns there others k hk

theorem stable_jsonMembers (ns : List (Option String × Node)) {room : Nat}
    {ms : List (String × Json)} (within : ∀ m ∈ ns, m.2.Within room)
    (h : jsonMembers ns = .ok ms) :
    ∀ m ∈ ms, (Node.ofJson m.2).Within room ∧ json (.ofJson m.2) = .ok m.2 := by
  match ns with
  | [] =>
    obtain rfl := Except.ok.inj h
    exact nofun
  | (none, _) :: _ => cases h
  | (some key, n) :: ns =>
    obtain ⟨here, there⟩ := List.forall_mem_cons.mp within
    rw [jsonMembers] at h
    obtain ⟨j, first, h⟩ := bind_eq_ok h
    obtain ⟨rest, others, h⟩ := bind_eq_ok h
    obtain rfl := Except.ok.inj h
    intro m hm
    rcases List.mem_cons.mp hm with rfl | hm
    · exact stable_json_at n here first
    · exact stable_jsonMembers ns there others m hm
end

theorem stable_json : Stable room json id := fun n _ within h => stable_json_at n within h

end Decoder

end TrafficTrace.Document
