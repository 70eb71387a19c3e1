import Mathlib.Data.List.Forall2
import TrafficTrace.Proofs.Transport.Targets

/-!
# What a filter by tags tells of the tags

A filter holds one text for each tag, in the order of the keys: the key, a colon and the value. Both
may hold colons of their own, so that a filter does not tell which colon ends a key. It tells
everything else, and if some other tags have the same filter, then so do tags that differ in the end
of a single key.
-/
namespace TrafficTrace

/-- A separator in a text is found again from the number of those before it. -/
theorem Text.append_cons_inj_of_count {sep : Char} {l m r s : List Char}
    (same : l ++ sep :: r = m ++ sep :: s) (count : l.count sep = m.count sep) :
    l = m ∧ r = s := by
  induction l generalizing m with
  | nil =>
    cases m with
    | nil => exact ⟨rfl, (List.cons.inj same).2⟩
    | cons d m =>
      obtain ⟨rfl, -⟩ := List.cons.inj same
      rw [List.count_nil, List.count_cons_self] at count
      cases count
  | cons c l ih =>
    cases m with
    | nil =>
      obtain ⟨rfl, -⟩ := List.cons.inj same
      rw [List.count_nil, List.count_cons_self] at count
      cases count
    | cons d m =>
      obtain ⟨rfl, tails⟩ := List.cons.inj same
      rw [List.count_cons, List.count_cons] at count
      obtain ⟨rfl, rest⟩ := ih tails (Nat.add_right_cancel count)
      exact ⟨rfl, rest⟩

namespace TagSet

/-- A tag as it stands in a filter. -/
def tagText (tag : String × String) : String := tag.1 ++ ":" ++ tag.2

/-- The colons within a key, which stand before the one that ends it. -/
def keyColons (tag : String × String) : Nat := tag.1.toList.count ':'

variable {a b : String × String}

theorem toList_tagText (tag : String × String) :
    (tagText tag).toList = tag.1.toList ++ ':' :: tag.2.toList := by
  simp [tagText]

theorem eq_of_tagText_eq (texts : tagText a = tagText b) (colons : keyColons a = keyColons b) :
    a = b := by
  have chars : a.1.toList ++ ':' :: a.2.toList = b.1.toList ++ ':' :: b.2.toList := by
    rw [← toList_tagText, ← toList_tagText, texts]
  obtain ⟨key, value⟩ := Text.append_cons_inj_of_count chars colons
  exact Prod.ext (String.toList_inj.mp key) (String.toList_inj.mp value)

theorem eq_of_key_eq (texts : tagText a = tagText b) (keys : a.1 = b.1) : a = b :=
  eq_of_tagText_eq texts (by rw [keyColons, keys, keyColons])

theorem eq_of_entries_eq {t u : TagSet} (same : t.entries = u.entries) : t = u := by
  cases t
  cases u
  cases same
  rfl

theorem toQuery_eq_iff {t u : TagSet} :
    t.toQuery = u.toQuery ↔ t.entries.map tagText = u.entries.map tagText := by
  have parameters (w : TagSet) : w.toQuery = (w.entries.map tagText).map ("tag", ·) :=
    List.map_map.symm
  have injective : Function.Injective fun text : String => ("tag", text) :=
    fun _ _ same => (Prod.mk.inj same).2
  rw [parameters, parameters, (List.map_injective_iff.mpr injective).eq_iff]

/-- A filter and the number of colons in each key tell the tags. -/
theorem eq_of_toQuery_eq {t u : TagSet} (filters : t.toQuery = u.toQuery)
    (colons : t.entries.map keyColons = u.entries.map keyColons) : t = u := by
  have both : (t.entries.map fun tag => (tagText tag, keyColons tag)) =
      u.entries.map fun tag => (tagText tag, keyColons tag) := by
    rw [← List.zip_map', ← List.zip_map', toQuery_eq_iff.mp filters, colons]
  have injective : Function.Injective fun tag : String × String => (tagText tag, keyColons tag) :=
    fun _ _ same => eq_of_tagText_eq (Prod.mk.inj same).1 (Prod.mk.inj same).2
  exact eq_of_entries_eq (List.map_injective_iff.mpr injective both)

/-- No key holds a colon. -/
def HasPlainKeys (t : TagSet) : Prop := ∀ tag ∈ t.entries, ':' ∉ tag.1.toList

theorem HasPlainKeys.map_keyColons {t : TagSet} (plain : t.HasPlainKeys) :
    t.entries.map keyColons = List.replicate t.size 0 :=
  List.map_eq_replicate_iff.mpr fun tag mem => List.count_eq_zero.mpr (plain tag mem)

theorem size_eq_of_toQuery_eq {t u : TagSet} (filters : t.toQuery = u.toQuery) :
    t.size = u.size := by
  have texts := congrArg List.length (toQuery_eq_iff.mp filters)
  rwa [List.length_map, List.length_map] at texts

/-! ### Other tags with the same filter -/

/-- All tags but one are the same, and of that one the text. -/
def DifferInKeyEnd (t u : TagSet) : Prop :=
  ∃ front tag other rest, t.entries = front ++ tag :: rest ∧ u.entries = front ++ other :: rest ∧
    tagText tag = tagText other ∧ tag ≠ other

theorem DifferInKeyEnd.toQuery_eq {t u : TagSet} (h : t.DifferInKeyEnd u) :
    t.toQuery = u.toQuery := by
  obtain ⟨front, tag, other, rest, left, right, texts, -⟩ := h
  rw [toQuery_eq_iff, left, right, List.map_append, List.map_append, List.map_cons, List.map_cons,
    texts]

theorem DifferInKeyEnd.ne {t u : TagSet} (h : t.DifferInKeyEnd u) : t ≠ u := by
  obtain ⟨front, tag, other, rest, left, right, -, different⟩ := h
  rintro rfl
  have tails := List.append_cancel_left (left.symm.trans right)
  exact different (List.cons.inj tails).1

variable {xs ys : List (String × String)}

theorem exists_mem_of_forall₂ {R : String × String → String × String → Prop}
    (h : List.Forall₂ R xs ys) {x : String × String} (mem : x ∈ xs) : ∃ y ∈ ys, R x y := by
  induction h with
  | nil => cases mem
  | cons r _ ih =>
    rcases List.mem_cons.mp mem with rfl | mem
    · exact ⟨_, List.mem_cons_self, r⟩
    · obtain ⟨y, hy, r⟩ := ih mem
      exact ⟨y, List.mem_cons_of_mem _ hy, r⟩

/-- In the place of `tag`, `other` leaves the keys in order. -/
def FitsFor (other tag : String × String) (xs : List (String × String)) : Prop :=
  ∃ front rest, xs = front ++ tag :: rest ∧ (front ++ other :: rest).Pairwise (·.1 < ·.1)

theorem FitsFor.mem {other tag : String × String} (h : FitsFor other tag xs) : tag ∈ xs := by
  obtain ⟨front, rest, rfl, -⟩ := h
  exact List.mem_append_right front List.mem_cons_self

theorem FitsFor.cons {other tag x : String × String} (h : FitsFor other tag xs)
    (below : ∀ z ∈ xs, x.1 < z.1) (less : x.1 < other.1) : FitsFor other tag (x :: xs) := by
  obtain ⟨front, rest, rfl, ordered⟩ := h
  refine ⟨x :: front, rest, rfl, List.pairwise_cons.mpr ⟨fun z mem => ?_, ordered⟩⟩
  rcases List.mem_append.mp mem with mem | mem
  · exact below z (List.mem_append_left _ mem)
  · rcases List.mem_cons.mp mem with rfl | mem
    · exact less
    · exact below z (List.mem_append_right _ (List.mem_cons_of_mem _ mem))

/-- Where keys end earlier in `ys`, the first of them can end there in `xs` alone. -/
theorem exists_earlier_end (hx : xs.Pairwise (·.1 < ·.1)) (hy : ys.Pairwise (·.1 < ·.1))
    (texts : xs.map tagText = ys.map tagText)
    (earlier : ¬ List.Forall₂ (fun x y => x.1 ≤ y.1) xs ys) :
    ∃ tag, ∃ other ∈ ys, FitsFor other tag xs ∧ tagText tag = tagText other ∧ other.1 < tag.1 := by
  induction xs generalizing ys with
  | nil =>
    obtain rfl := List.map_eq_nil_iff.mp texts.symm
    exact absurd .nil earlier
  | cons x xs ih =>
    cases ys with
    | nil => cases texts
    | cons y ys =>
      obtain ⟨text, texts⟩ := List.cons.inj texts
      obtain ⟨below_xs, hx⟩ := List.pairwise_cons.mp hx
      obtain ⟨below_ys, hy⟩ := List.pairwise_cons.mp hy
      by_cases here : y.1 < x.1
      · have ordered : (y :: xs).Pairwise (·.1 < ·.1) :=
          List.pairwise_cons.mpr ⟨fun z mem => String.lt_trans here (below_xs z mem), hx⟩
        exact ⟨x, y, List.mem_cons_self, ⟨[], xs, rfl, ordered⟩, text, here⟩
      · have le : x.1 ≤ y.1 := String.not_lt.mp here
        obtain ⟨tag, other, mem, fits, text, less⟩ :=
          ih hx hy texts fun all => earlier (.cons le all)
        have above : x.1 < other.1 := Std.lt_of_le_of_lt le (below_ys other mem)
        exact ⟨tag, other, List.mem_cons_of_mem y mem, fits.cons below_xs above, text, less⟩

/-- Where keys end later in `ys`, the last of them can end there in `xs` alone. -/
theorem exists_later_end (hx : xs.Pairwise (·.1 < ·.1)) (hy : ys.Pairwise (·.1 < ·.1))
    (texts : xs.map tagText = ys.map tagText)
    (later : ¬ List.Forall₂ (fun x y => y.1 ≤ x.1) xs ys) :
    ∃ tag other, FitsFor other tag xs ∧ tagText tag = tagText other ∧ tag.1 < other.1 := by
  induction xs generalizing ys with
  | nil =>
    obtain rfl := List.map_eq_nil_iff.mp texts.symm
    exact absurd .nil later
  | cons x xs ih =>
    cases ys with
    | nil => cases texts
    | cons y ys =>
      obtain ⟨text, texts⟩ := List.cons.inj texts
      obtain ⟨below_xs, hx⟩ := List.pairwise_cons.mp hx
      obtain ⟨below_ys, hy⟩ := List.pairwise_cons.mp hy
      by_cases after : List.Forall₂ (fun x y => y.1 ≤ x.1) xs ys
      · -- no key after this one ends later, so the keys in `xs` are above that of `y` too
        have here : x.1 < y.1 := String.not_le.mp fun le => later (.cons le after)
        have ordered : (y :: xs).Pairwise (·.1 < ·.1) := by
          refine List.pairwise_cons.mpr ⟨fun z mem => ?_, hx⟩
          obtain ⟨w, hw, le⟩ := exists_mem_of_forall₂ after mem
          exact Std.lt_of_lt_of_le (below_ys w hw) le
        exact ⟨x, y, ⟨[], xs, rfl, ordered⟩, text, here⟩
      · obtain ⟨tag, other, fits, text, less⟩ := ih hx hy texts after
        have above : x.1 < other.1 := String.lt_trans (below_xs tag fits.mem) less
        exact ⟨tag, other, fits.cons below_xs above, text, less⟩

theorem eq_of_keys_le (texts : xs.map tagText = ys.map tagText)
    (le : List.Forall₂ (fun x y => x.1 ≤ y.1) xs ys)
    (ge : List.Forall₂ (fun x y => y.1 ≤ x.1) xs ys) : xs = ys := by
  induction le with
  | nil => rfl
  | cons le _ ih =>
    cases ge with
    | cons ge others =>
      obtain ⟨text, texts⟩ := List.cons.inj texts
      rw [eq_of_key_eq text (String.le_antisymm le ge), ih texts others]

theorem FitsFor.differ {t : TagSet} {other tag : String × String}
    (fits : FitsFor other tag t.entries) (text : tagText tag = tagText other)
    (different : tag.1 ≠ other.1) :
    ∃ u, t.DifferInKeyEnd u := by
  obtain ⟨front, rest, entries, ordered⟩ := fits
  exact ⟨⟨_, ordered⟩, front, tag, other, rest, entries, rfl, text, fun same =>
    different (congrArg Prod.fst same)⟩

/-- If other tags have the same filter, some differ in the end of one key only. -/
theorem exists_differInKeyEnd_iff (t : TagSet) :
    (∃ u, t.DifferInKeyEnd u) ↔ ∃ u : TagSet, t.toQuery = u.toQuery ∧ t ≠ u := by
  constructor
  · rintro ⟨u, h⟩
    exact ⟨u, h.toQuery_eq, h.ne⟩
  · rintro ⟨u, filters, different⟩
    have texts := toQuery_eq_iff.mp filters
    by_cases le : List.Forall₂ (fun x y => x.1 ≤ y.1) t.entries u.entries
    · by_cases ge : List.Forall₂ (fun x y => y.1 ≤ x.1) t.entries u.entries
      · exact absurd (eq_of_entries_eq (eq_of_keys_le texts le ge)) different
      · obtain ⟨tag, other, fits, text, less⟩ := exists_later_end t.ascending u.ascending texts ge
        exact fits.differ text (String.ne_of_lt less)
    · obtain ⟨tag, other, -, fits, text, less⟩ :=
        exists_earlier_end t.ascending u.ascending texts le
      exact fits.differ text (String.ne_of_lt less).symm

end TagSet

/-! ### On the wire -/

/-- Where a call goes over a connection. -/
def Connection.addressOf? (c : Connection) (call : ServiceCall) : Option Url :=
  call.request?.bind fun r => (Transport.target c r).toOption

namespace Transport

variable {ρ σ : Type}

theorem exists_directory_of_new {settings : TransportSettings} {client : Uuid}
    {reporter : FailureReporter ρ} {t : Transport ρ}
    (accepted : Transport.new settings client reporter = .ok t) :
    Url.isSpecial t.base.scheme = true ∧ ∃ dir, t.base.path = .segments (dir ++ [""]) := by
  obtain ⟨base, addressed, made⟩ := Document.bind_eq_ok accepted
  cases made
  obtain ⟨based, directory⟩ := TransportSettings.isBase_address addressed
  exact ⟨based.isSpecial, directory⟩

/-- The address to which a listing goes tells its filter and nothing more, also where the server has
another name than the base. -/
theorem addressOf?_listTraces_eq_iff {settings : TransportSettings} {client : Uuid}
    {reporter : FailureReporter ρ} {transport : Transport ρ} {n : Network σ} {c : Connection}
    (accepted : Transport.new settings client reporter = .ok transport)
    (connected : transport.connect n = .ok c) (service : ServiceId) (t u : TagSet) :
    c.addressOf? (.listTraces service t) = c.addressOf? (.listTraces service u) ↔
      t.toQuery = u.toQuery := by
  obtain ⟨special, dir, directory⟩ := exists_directory_of_new accepted
  obtain ⟨host, moved⟩ := exists_host_of_connect connected
  have scheme : Url.isSpecial c.base.scheme = true := by rw [moved, special]
  have path : c.base.path = .segments (dir ++ [""]) := by rw [moved, directory]
  have address (w : TagSet) : c.addressOf? (.listTraces service w) =
      some (Url.withPairs { c.base with
        path := .segments (dir ++ (Operation.listTraces service).segments)
        query := none
        fragment := none } w.toQuery) := by
    have found := target_eq scheme path (c := .listTraces service w) rfl c.peer
    rw [Connection.addressOf?, ServiceCall.request?, Option.bind_some, found]
    rfl
  rw [address, address]
  constructor
  · intro same
    have reads (w : TagSet) := (Url.isUnder_withPairs path
      (Operation.listTraces service).segments_ne_nil w.toQuery).query
    have both := reads t
    rw [Option.some.inj same, reads u] at both
    exact (Option.some.inj both).symm
  · intro same
    rw [same]

end Transport

namespace TagSet

/-- A filter tells the tags but for the colon that ends each key. So it tells tags whose keys hold
no colon, whatever their values are. Tags are the only ones with their filter exactly if no single
key can end at another colon of its text with the keys still in order. The address of a listing
tells as much as its filter. -/
theorem filter_tells_all_but_key_ends :
    (∀ t u : TagSet, t = u ↔
      t.toQuery = u.toQuery ∧ t.entries.map keyColons = u.entries.map keyColons) ∧
    (∀ t u : TagSet, t.HasPlainKeys → u.HasPlainKeys → t.toQuery = u.toQuery → t = u) ∧
    (∀ t : TagSet, (∀ u : TagSet, t.toQuery = u.toQuery → t = u) ↔ ∀ u, ¬ t.DifferInKeyEnd u) ∧
    ∀ (ρ σ : Type) (settings : TransportSettings) (client : Uuid) (reporter : FailureReporter ρ)
      (transport : Transport ρ) (n : Network σ) (c : Connection),
      Transport.new settings client reporter = .ok transport → transport.connect n = .ok c →
      ∀ (service : ServiceId) (t u : TagSet),
        c.addressOf? (.listTraces service t) = c.addressOf? (.listTraces service u) ↔
          t.toQuery = u.toQuery := by
  refine ⟨fun t u => ⟨?_, fun h => eq_of_toQuery_eq h.1 h.2⟩, ?_, fun t => ?_,
    fun ρ σ settings client reporter transport n c accepted connected service t u =>
      Transport.addressOf?_listTraces_eq_iff accepted connected service t u⟩
  · rintro rfl
    exact ⟨rfl, rfl⟩
  · intro t u plain_t plain_u filters
    refine eq_of_toQuery_eq filters ?_
    rw [plain_t.map_keyColons, plain_u.map_keyColons, size_eq_of_toQuery_eq filters]
  · rw [← not_exists, exists_differInKeyEnd_iff, not_exists]
    exact forall_congr' fun u => by rw [not_and, not_not]

/-- Different tags with plain keys have different filters, and listings of them go to different
addresses, here over a connection whose server has another name than the base. -/
theorem filter_tells_all_but_key_ends_renamed :
    let t := TagSet.ofList [("a", "b:c")]
    let u := TagSet.ofList [("a", "b"), ("c", ":")]
    let settings := { TransportSettings.standard with tlsServerName := some "inner.example" }
    let base : Url := ⟨"https", "", none, some (.name "api.tracehound.dev"), none,
      .segments [""], none, none⟩
    let transport : Transport Unit := ⟨settings, .nil, .empty, base⟩
    let c : Connection := ⟨{ base with host := some (.name "inner.example") }, base.host⟩
    t.HasPlainKeys ∧ u.HasPlainKeys ∧ t.toQuery ≠ u.toQuery ∧
    Transport.new settings .nil .empty = .ok transport ∧
    transport.connect Network.scripted = .ok c ∧
    c.addressOf? (.listTraces .nil t) ≠ c.addressOf? (.listTraces .nil u) := by
  intro t u settings base transport c
  have plain_t : t.HasPlainKeys := by
    unfold HasPlainKeys
    decide +kernel
  have plain_u : u.HasPlainKeys := by
    unfold HasPlainKeys
    decide +kernel
  have different : t ≠ u := by decide +kernel
  have addressed : settings.address = .ok base := by decide +kernel
  have accepted : Transport.new settings .nil .empty = .ok transport := by
    rw [Transport.new, addressed]
    rfl
  have connected : transport.connect Network.scripted = .ok c := by decide +kernel
  obtain ⟨-, tells, -, addresses⟩ := filter_tells_all_but_key_ends
  have filters : t.toQuery ≠ u.toQuery := fun same => different (tells t u plain_t plain_u same)
  refine ⟨plain_t, plain_u, filters, accepted, connected, fun same => filters ?_⟩
  exact (addresses _ _ _ _ _ _ _ _ accepted connected _ t u).mp same

/-- A colon goes from the value to the key: both tags are read from what a user may write, they are
different, and they have the same filter. -/
theorem colon_moves_into_key :
    let t := TagSet.ofList [("a", "b:c")]
    let u := TagSet.ofList [("a:b", "c")]
    readTag "a=b:c" = .ok ("a", "b:c") ∧ readTag "a:b=c" = .ok ("a:b", "c") ∧
      ¬ (t.toQuery = u.toQuery → t = u) ∧ t.covers u = false ∧
      (ServiceCall.listTraces .nil t).request? = (ServiceCall.listTraces .nil u).request? := by
  decide +kernel

end TagSet

end TrafficTrace
