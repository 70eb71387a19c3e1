import TrafficTrace.Identifier
import TrafficTrace.Proofs.Json.Strings
import TrafficTrace.Proofs.Text.Framing
import TrafficTrace.Proofs.Text.Hexadecimal

/-!
# The text of an identifier

An identifier is written as the tag of its kind, an underscore and 32 small hexadecimal digits. The
reader of universally unique identifiers takes other forms as well, but those are longer than the 32
bytes that are left to it. So what is read are the same texts with digits in either case, and no
text is read as two kinds.
-/
namespace TrafficTrace

open Text

namespace Uuid

variable {cs : List Char} {u : Uuid}

theorem ofSimple?_eq_some_iff : ofSimple? cs = some u ↔ u.simple = cs.map asciiLowerChar := by
  constructor
  · intro h
    obtain ⟨bs, read, h⟩ := Option.bind_eq_some_iff.mp h
    rw [ofBytes?] at h
    split at h
    · obtain rfl := Option.some.inj h
      exact bytesOfHex?_eq_some_iff.mp read
    · cases h
  · intro h
    have read : bytesOfHex? cs = some u.bytes := bytesOfHex?_eq_some_iff.mpr h
    have bytes : ofBytes? u.bytes = some u := dif_pos u.length_eq
    rw [ofSimple?, read]
    exact bytes

theorem length_of_ofHyphenated? (h : ofHyphenated? cs = some u) : cs.length = 36 := by
  rw [ofHyphenated?] at h
  split at h
  · rename_i hyphens
    exact hyphens.1
  · cases h

/-- With hyphens there are 36 characters at least. -/
theorem ofSimple?_of_read? (short : cs.length ≤ 32) (h : read? cs = some u) :
    ofSimple? cs = some u := by
  unfold read? at h
  split at h
  · exact h
  split at h
  · omega
  split at h
  · split at h
    · have length := length_of_ofHyphenated? h
      rw [List.length_dropLast] at length
      rw [List.length_cons] at short
      omega
    · cases h
  · have length := length_of_ofHyphenated? h
    simp only [List.length_cons] at short
    omega
  · cases h

theorem read?_eq_some_iff (short : cs.length ≤ 32) :
    read? cs = some u ↔ u.simple = cs.map asciiLowerChar := by
  constructor
  · intro h
    exact ofSimple?_eq_some_iff.mp (ofSimple?_of_read? short h)
  · intro h
    have length : cs.length = 32 := by
      rw [← u.length_simple, h, List.length_map]
    unfold read?
    rw [if_pos length]
    exact ofSimple?_eq_some_iff.mpr h

theorem isHexDigit_of_simple (h : u.simple = cs.map asciiLowerChar) : ∀ c ∈ cs, IsHexDigit c :=
  isHexDigit_of_bytesOfHex? (bytesOfHex?_eq_some_iff.mpr h)

theorem exists_simple (length : cs.length = 32) (digits : ∀ c ∈ cs, IsHexDigit c) :
    ∃ u : Uuid, u.simple = cs.map asciiLowerChar := by
  obtain ⟨bs, read⟩ := exists_bytesOfHex? (n := 16) length digits
  have written := bytesOfHex?_eq_some_iff.mp read
  have size : bs.length = 16 := by
    have same := congrArg List.length written
    rw [length_hexOfBytes, List.length_map] at same
    omega
  exact ⟨⟨bs, size⟩, written⟩

/-- The groups between the hyphens are read as one row of digits. -/
theorem ofHyphenated?_groups {a b c d e : List Char} (ha : a.length = 8) (hb : b.length = 4)
    (hc : c.length = 4) (hd : d.length = 4) (he : e.length = 12) :
    ofHyphenated? (a ++ '-' :: b ++ '-' :: c ++ '-' :: d ++ '-' :: e) =
      ofSimple? (a ++ b ++ c ++ d ++ e) := by
  simp [ofHyphenated?, List.drop_append, List.getElem?_append, List.drop_eq_nil_of_le, ha, hb, hc,
    hd, he]

theorem ofText?_toText (u : Uuid) : ofText? u.toText = some u := by
  have length := u.length_simple
  have groups : u.simple.take 8 ++ (u.simple.drop 8).take 4 ++ (u.simple.drop 12).take 4 ++
      (u.simple.drop 16).take 4 ++ u.simple.drop 20 = u.simple := by
    simp [← List.take_add, List.take_append_drop]
  have read : ofHyphenated? u.hyphenated = some u := by
    rw [hyphenated, ofHyphenated?_groups (by simp [length]) (by simp [length]) (by simp [length])
      (by simp [length]) (by simp [length]), groups, ofSimple?_simple]
  have long : u.hyphenated.length = 36 := by simp [hyphenated, length]
  rw [ofText?, toText, String.toList_ofList]
  unfold read?
  rw [if_neg (by omega), if_pos long, read]
end Uuid

/-- The text of a kind with the given digits. -/
def IdKind.spell (k : IdKind) (digits : List Char) : String :=
  k.tag ++ "_" ++ String.ofList digits

theorem IdKind.toList_spell (k : IdKind) (digits : List Char) :
    (k.spell digits).toList = k.tag.toList ++ '_' :: digits := by
  simp [spell]

theorem IdKind.spell_injective {k : IdKind} {ds es : List Char} (h : k.spell ds = k.spell es) :
    ds = es := by
  have same := congrArg String.toList h
  rw [toList_spell, toList_spell] at same
  exact (List.cons_eq_cons.mp (List.append_cancel_left same)).2

/-- Tags have three characters, so that they end in one place. -/
theorem IdKind.eq_of_spell_eq {k l : IdKind} {ds es : List Char} (h : k.spell ds = l.spell es) :
    k = l := by
  have same := congrArg (fun s : String => s.toList.take 3) h
  simp only [toList_spell] at same
  cases k <;> cases l <;> simp [tag] at same <;> rfl

namespace Id

variable {k : IdKind} {s : String} {i : Id k} {digits : List Char}

theorem toText_eq_spell (i : Id k) : i.toText = k.spell i.uuid.simple := by
  apply String.toList_inj.mp
  rw [toText, String.toList_ofList, write, IdKind.toList_spell]

theorem toText_eq_spell_iff : i.toText = k.spell digits ↔ i.uuid.simple = digits := by
  rw [toText_eq_spell]
  exact ⟨IdKind.spell_injective, congrArg k.spell⟩

theorem afterWord?_eq_some_iff {w cs rest : List Char} :
    afterWord? w cs = some rest ↔ cs = w ++ rest := by
  induction w generalizing cs with
  | nil => simp [afterWord?]
  | cons a w ih =>
    cases cs with
    | nil => simp [afterWord?]
    | cons c cs =>
      by_cases same : a = c
      · simp [afterWord?, same, ih]
      · simp [afterWord?, same, Ne.symm same]

/-- 32 bytes are left for at most 32 characters, and digits take a byte each. -/
theorem read?_eq_some_iff {cs : List Char} :
    read? k cs = some i ↔
      ∃ digits, cs = k.tag.toList ++ '_' :: digits ∧ i.uuid.simple = digits.map asciiLowerChar := by
  constructor
  · intro h
    obtain ⟨hex, after, h⟩ := Option.bind_eq_some_iff.mp h
    have parts := afterWord?_eq_some_iff.mp after
    rw [List.append_assoc] at parts
    split at h
    · rename_i size
      have short : hex.length ≤ 32 := size ▸ length_le_utf8ByteSize hex
      obtain ⟨u, read, rfl⟩ := Option.map_eq_some_iff.mp h
      exact ⟨hex, parts, (Uuid.read?_eq_some_iff short).mp read⟩
    · cases h
  · rintro ⟨digits, rfl, h⟩
    -- The check looks at bytes and the reader at characters; for digits these are the same.
    have length : digits.length = 32 := by
      rw [← i.uuid.length_simple, h, List.length_map]
    have ascii : ∀ c ∈ digits, c.toNat < 128 := fun c hc =>
      (Uuid.isHexDigit_of_simple h c hc).toNat_lt
    have after : afterWord? (k.tag.toList ++ ['_']) (k.tag.toList ++ '_' :: digits) = some digits :=
      afterWord?_eq_some_iff.mpr (by simp)
    have size : (String.ofList digits).utf8ByteSize = 32 := by
      rw [utf8ByteSize_of_ascii ascii, length]
    have read : Uuid.read? digits = some i.uuid :=
      (Uuid.read?_eq_some_iff (Nat.le_of_eq length)).mpr h
    simp [read?, after, size, read]

/-- The texts of an identifier. -/
theorem ofText_eq_ok_iff :
    ofText k s = .ok i ↔
      ∃ digits, s = k.spell digits ∧ i.toText = k.spell (digits.map asciiLowerChar) := by
  have read : ofText k s = .ok i ↔ read? k s.toList = some i := by
    rw [ofText]
    split <;> simp [*]
  have text (digits : List Char) :
      s = k.spell digits ↔ s.toList = k.tag.toList ++ '_' :: digits := by
    rw [← IdKind.toList_spell, String.toList_inj]
  simp only [read, read?_eq_some_iff, text, toText_eq_spell_iff]

theorem ofText_toText (i : Id k) : ofText k i.toText = .ok i := by
  have small : i.uuid.simple.map asciiLowerChar = i.uuid.simple :=
    map_asciiLowerChar_eq fun c hc => isSmallHexDigit_of_mem_hexOfBytes hc
  refine ofText_eq_ok_iff.mpr ⟨i.uuid.simple, i.toText_eq_spell, ?_⟩
  rw [small, toText_eq_spell]

/-- Texts are read as some identifier when they have the form of one. -/
theorem exists_ofText_iff :
    (∃ i, ofText k s = .ok i) ↔
      ∃ digits, s = k.spell digits ∧ digits.length = 32 ∧ ∀ c ∈ digits, IsHexDigit c := by
  constructor
  · rintro ⟨i, h⟩
    obtain ⟨digits, text, display⟩ := ofText_eq_ok_iff.mp h
    have simple := toText_eq_spell_iff.mp display
    refine ⟨digits, text, ?_, Uuid.isHexDigit_of_simple simple⟩
    rw [← i.uuid.length_simple, simple, List.length_map]
  · rintro ⟨digits, text, length, hexadecimal⟩
    obtain ⟨u, simple⟩ := Uuid.exists_simple length hexadecimal
    exact ⟨⟨u⟩, ofText_eq_ok_iff.mpr ⟨digits, text, toText_eq_spell_iff.mpr simple⟩⟩

theorem toText_of_ofText_spell (h : ofText k (k.spell digits) = .ok i) :
    i.toText = k.spell (digits.map asciiLowerChar) := by
  obtain ⟨others, same, display⟩ := ofText_eq_ok_iff.mp h
  obtain rfl := IdKind.spell_injective same
  exact display

theorem kind_eq_of_ofText {l : IdKind} {j : Id l} (h : ofText k s = .ok i)
    (h' : ofText l s = .ok j) : k = l := by
  obtain ⟨digits, text, -⟩ := ofText_eq_ok_iff.mp h
  obtain ⟨others, text', -⟩ := ofText_eq_ok_iff.mp h'
  exact IdKind.eq_of_spell_eq (text.symm.trans text')

/-! ### Sets -/

/-- Each identifier is another one than all before it, and none of them is greater. -/
def Ascending (is : List (Id k)) : Prop :=
  is.Pairwise fun i j => i ≠ j ∧ ¬ j.uuid.toNat < i.uuid.toNat

theorem ascending_insert {is : List (Id k)} (h : Ascending is) : Ascending (insert i is) := by
  induction is with
  | nil => exact List.pairwise_singleton _ i
  | cons j js ih =>
    obtain ⟨first, rest⟩ := List.pairwise_cons.mp h
    rw [insert]
    split
    · exact h
    · rename_i other
      split
      · rename_i less
        refine List.pairwise_cons.mpr ⟨?_, h⟩
        rintro a (_ | ⟨_, ha⟩)
        · exact ⟨other, Nat.lt_asymm less⟩
        · have := (first a ha).2
          constructor
          · rintro rfl
            exact this less
          · omega
      · rename_i least
        refine List.pairwise_cons.mpr ⟨?_, ih rest⟩
        intro a ha
        rcases mem_insert.mp ha with rfl | ha
        · exact ⟨Ne.symm other, least⟩
        · exact first a ha

/-- The greatest identifier is put at the end. -/
theorem insert_of_last {is : List (Id k)} (h : ∀ j ∈ is, j ≠ i ∧ ¬ i.uuid.toNat < j.uuid.toNat) :
    insert i is = is ++ [i] := by
  induction is with
  | nil => rfl
  | cons j js ih =>
    obtain ⟨⟨other, least⟩, rest⟩ := List.forall_mem_cons.mp h
    rw [insert, if_neg (Ne.symm other), if_neg least, ih rest, List.cons_append]

theorem setOf_append (is : List (Id k)) (i : Id k) : setOf (is ++ [i]) = insert i (setOf is) := by
  rw [setOf, List.foldl_append]
  rfl

theorem ascending_setOf (is : List (Id k)) : Ascending (setOf is) := by
  induction is using List.reverseRecOn with
  | nil => exact List.Pairwise.nil
  | append_singleton is i ih =>
    rw [setOf_append]
    exact ascending_insert ih

theorem setOf_of_ascending {is : List (Id k)} (h : Ascending is) : setOf is = is := by
  induction is using List.reverseRecOn with
  | nil => rfl
  | append_singleton is i ih =>
    obtain ⟨before, -, order⟩ := List.pairwise_append.mp h
    rw [setOf_append, ih before]
    exact insert_of_last fun j hj => order j hj i (List.mem_singleton.mpr rfl)

theorem setOf_setOf (is : List (Id k)) : setOf (setOf is) = setOf is :=
  setOf_of_ascending (ascending_setOf is)

theorem setOf_subset (is : List (Id k)) : setOf is ⊆ is := by
  induction is using List.reverseRecOn with
  | nil => exact List.nil_subset _
  | append_singleton is i ih =>
    intro j hj
    rw [setOf_append] at hj
    rcases mem_insert.mp hj with rfl | hj
    · exact List.mem_append_right _ (List.mem_singleton.mpr rfl)
    · exact List.mem_append_left _ (ih hj)

/-! ### In JSON -/

theorem decodeText_decoder_iff {t : String} :
    Json.decodeText (decoder k) t = .ok i ↔
      ∃ s, Json.readText t = (.string (some s), true) ∧ ofText k s = .ok i := by
  have accepted (s : String) :
      (ofText k s).mapError IdError.message = .ok i ↔ ofText k s = .ok i := by
    cases ofText k s <;> simp [Except.mapError]
  rw [decoder, Json.decodeText_refined_iff]
  simp only [accepted]

theorem decodeText_str_iff :
    Json.decodeText (decoder k) (Json.str s).toText = .ok i ↔ ofText k s = .ok i := by
  rw [decodeText_decoder_iff, Json.readText_str]
  simp

/-- No character of the text is escaped. -/
theorem toText_toJson (i : Id k) : i.toJson.toText = "\"" ++ i.toText ++ "\"" := by
  apply Json.toText_str
  intro c hc
  rw [toText, String.toList_ofList, write] at hc
  rcases List.mem_append.mp hc with tag | hc
  · have plain : k.tag.toList.all (fun c => decide (Json.escapeChar c = [c])) = true := by
      cases k <;> decide
    exact of_decide_eq_true (List.all_eq_true.mp plain c tag)
  · rcases List.mem_cons.mp hc with rfl | digit
    · rfl
    · exact @of_isHexDigit c (fun c => Json.escapeChar c = [c]) (by decide)
        (.inl (isSmallHexDigit_of_mem_hexOfBytes digit))

/-- Identifiers are written as the tag of their kind, an underscore and 32 small digits, and are read
from these texts with digits in either case, which are written again in small letters. All other
texts are refused, by the other kinds too. In JSON an identifier is this text in quotes, and is read
from the strings that hold such a text and from no other document. -/
theorem ofText_iff_spelled (k : IdKind) :
    (∀ u : Uuid, ofText k (toText (⟨u⟩ : Id k)) = .ok ⟨u⟩ ∧
        ∃ digits, toText (⟨u⟩ : Id k) = k.spell digits ∧ digits.length = 32 ∧
          ∀ c ∈ digits, IsSmallHexDigit c) ∧
      (∀ s, (∃ i, ofText k s = .ok i) ↔
        ∃ digits, s = k.spell digits ∧ digits.length = 32 ∧ ∀ c ∈ digits, IsHexDigit c) ∧
      (∀ digits i, ofText k (k.spell digits) = .ok i →
        i.toText = k.spell (digits.map asciiLowerChar)) ∧
      (∀ l s (i : Id k) (j : Id l), ofText k s = .ok i → ofText l s = .ok j → k = l) ∧
      (∀ i : Id k, i.toJson.toText = "\"" ++ i.toText ++ "\"" ∧
        Json.decodeText (decoder k) i.toJson.toText = .ok i) ∧
      (∀ s i, Json.decodeText (decoder k) (Json.str s).toText = .ok i ↔ ofText k s = .ok i) ∧
      ∀ t i, Json.decodeText (decoder k) t = .ok i ↔
        ∃ s, Json.readText t = (.string (some s), true) ∧ ofText k s = .ok i := by
  refine ⟨fun u => ⟨ofText_toText ⟨u⟩, u.simple, toText_eq_spell ⟨u⟩, u.length_simple, ?_⟩,
    fun s => exists_ofText_iff, fun digits i => toText_of_ofText_spell,
    fun l s i j => kind_eq_of_ofText, fun i => ⟨i.toText_toJson, ?_⟩,
    fun s i => decodeText_str_iff, fun t i => decodeText_decoder_iff⟩
  · intro c hc
    exact isSmallHexDigit_of_mem_hexOfBytes hc
  · exact decodeText_str_iff.mpr i.ofText_toText

/-- Digits in both cases, and the same text asked for a kind that it does not have. -/
theorem ofText_iff_spelled_capitals :
    let digits := "00FF00ff00FF00ff00FF00ff00FF00ff".toList
    let i : TraceId := ⟨⟨(List.replicate 8 [0, 255]).flatten, rfl⟩⟩
    ofText .trace (IdKind.trace.spell digits) = .ok i ∧
      i.toText = "trc_00ff00ff00ff00ff00ff00ff00ff00ff" ∧
      ∀ j : ServiceId, ofText .service (IdKind.trace.spell digits) ≠ .ok j := by
  intro digits i
  obtain ⟨-, -, display, kinds, -⟩ := ofText_iff_spelled .trace
  have read : ofText .trace (IdKind.trace.spell digits) = .ok i := by decide +kernel
  refine ⟨read, ?_, fun j other => ?_⟩
  · exact (display digits i read).trans (by decide +kernel)
  · exact absurd (kinds .service _ i j read other) (by decide)

end Id

end TrafficTrace
