import Mathlib.Data.List.TakeWhile
import TrafficTrace.Proofs.Document.Record
import TrafficTrace.Proofs.Url.Form
import TrafficTrace.Url.Reader

/-!
# A plain path goes under its base

A relative path of plain words has no scheme, no query and nothing to encode, so that joining puts
its words after the directory of the base and keeps scheme, user, host and port. An address with a
well known scheme has segments, and as a directory it keeps all of them.
-/
namespace TrafficTrace.Url

open Text (pieces utf8)

/-- Small letters, digits, hyphens and underscores, which mean themselves in a path. -/
def isWordChar (c : Char) : Bool :=
  ('a' ≤ c && c ≤ 'z') || ('0' ≤ c && c ≤ '9') || c = '-' || c = '_'

theorem of_isWordChar {P : Char → Prop}
    (h : ∀ n < 128, isWordChar (Char.ofNat n) = true → P (Char.ofNat n)) {c : Char}
    (word : isWordChar c = true) : P c := by
  have toNat_le {a b : Char} : a ≤ b ↔ a.toNat ≤ b.toNat := Iff.rfl
  have small : c.toNat < 128 := by
    simp only [isWordChar, Bool.or_eq_true, Bool.and_eq_true, decide_eq_true_eq, toNat_le] at word
    rcases word with ((⟨-, h⟩ | ⟨-, h⟩) | rfl) | rfl
    · exact Nat.lt_of_le_of_lt h (by decide)
    · exact Nat.lt_of_le_of_lt h (by decide)
    · decide
    · decide
  have found := h c.toNat small
  rw [Char.ofNat_toNat] at found
  exact found word

/-! ### What the reader of addresses asks of a character -/

theorem percentEncode_wordChar {c : Char} : isWordChar c = true → percentEncode inPath [c] = [c] :=
  @of_isWordChar (fun c => percentEncode inPath [c] = [c]) (by decide +kernel) c

theorem visible_wordChar {c : Char} : isWordChar c = true → 32 < c.toNat :=
  @of_isWordChar (fun c => 32 < c.toNat) (by decide +kernel) c

theorem isSlash_wordChar {c : Char} : isWordChar c = true → isSlash true c = false :=
  @of_isWordChar (fun c => isSlash true c = false) (by decide +kernel) c

theorem endsPath_wordChar {c : Char} : isWordChar c = true → endsPath c = false :=
  @of_isWordChar (fun c => endsPath c = false) (by decide +kernel) c

theorem wordChar_ne_colon {c : Char} : isWordChar c = true → c ≠ ':' :=
  @of_isWordChar (fun c => c ≠ ':') (by decide +kernel) c

theorem wordChar_not_capital {c : Char} : isWordChar c = true → ¬('A' ≤ c ∧ c ≤ 'Z') :=
  @of_isWordChar (fun c => ¬('A' ≤ c ∧ c ≤ 'Z')) (by decide +kernel) c

/-! ### A path of words -/

/-- A segment of a path that is no dot and has nothing to encode. -/
structure IsWord (s : String) : Prop where
  nonempty : s ≠ ""
  plain : ∀ c ∈ s.toList, isWordChar c = true

namespace IsWord

variable {s : String}

instance : Decidable (IsWord s) :=
  decidable_of_iff (s ≠ "" ∧ s.toList.all isWordChar = true)
    ⟨fun h => ⟨h.1, List.all_eq_true.mp h.2⟩, fun h => ⟨h.1, List.all_eq_true.mpr h.2⟩⟩

theorem percentEncode_eq (h : IsWord s) : percentEncode inPath s.toList = s.toList := by
  have plain := h.plain
  generalize s.toList = cs at plain
  induction cs with
  | nil => rfl
  | cons c cs ih =>
    have split : percentEncode inPath (c :: cs) =
        percentEncode inPath [c] ++ percentEncode inPath cs := by
      rw [← List.singleton_append, percentEncode, utf8_append, List.flatMap_append]
      rfl
    rw [split, percentEncode_wordChar (plain c List.mem_cons_self),
      ih fun d hd => plain d (List.mem_cons_of_mem _ hd), List.singleton_append]

theorem asciiLower_eq (h : IsWord s) : Text.asciiLower s = s := by
  have same : (s.toList.map fun c => if 'A' ≤ c && c ≤ 'Z' then Char.ofNat (c.toNat + 32) else c) =
      s.toList.map id :=
    List.map_congr_left fun c hc => if_neg (by simpa using wordChar_not_capital (h.plain c hc))
  rw [Text.asciiLower, same, List.map_id, String.ofList_toList]

theorem ne_of_mem (h : IsWord s) {t : String} (c : Char) (mem : c ∈ t.toList)
    (mark : isWordChar c = false) : s ≠ t := by
  rintro rfl
  rw [h.plain c mem] at mark
  cases mark

theorem isDot_eq_false (h : IsWord s) : isDot s = false := by
  rw [isDot, h.asciiLower_eq, Bool.or_eq_false_iff, decide_eq_false_iff_not,
    decide_eq_false_iff_not]
  exact ⟨h.ne_of_mem '.' (by decide) rfl, h.ne_of_mem '%' (by decide) rfl⟩

theorem isDoubleDot_eq_false (h : IsWord s) : isDoubleDot s = false := by
  rw [isDoubleDot, h.asciiLower_eq, Bool.or_eq_false_iff, decide_eq_false_iff_not]
  refine ⟨h.ne_of_mem '.' (by decide) rfl, ?_⟩
  rw [List.contains_eq_mem, decide_eq_false_iff_not]
  simp only [List.mem_cons, List.not_mem_nil, or_false, not_or]
  exact ⟨h.ne_of_mem '%' (by decide) rfl, h.ne_of_mem '%' (by decide) rfl,
    h.ne_of_mem '%' (by decide) rfl⟩

end IsWord

theorem addSegment_word {s : String} (h : IsWord s) (parts : List String) (last : Bool) :
    addSegment parts s last = parts ++ [s] := by
  rw [addSegment, if_neg (by rw [h.isDoubleDot_eq_false]; decide),
    if_neg (by rw [h.isDot_eq_false]; decide)]

theorem addSegments_words {segments : List String} (words : ∀ s ∈ segments, IsWord s)
    (parts : List String) : addSegments parts (segments.map String.toList) = parts ++ segments := by
  induction segments generalizing parts with
  | nil => rw [List.map_nil, addSegments, List.append_nil]
  | cons s segments ih =>
    have word := words s List.mem_cons_self
    cases segments with
    | nil =>
      rw [List.map_singleton, addSegments, word.percentEncode_eq, String.ofList_toList,
        addSegment_word word]
    | cons t segments =>
      rw [List.map_cons, List.map_cons, addSegments, word.percentEncode_eq, String.ofList_toList,
        addSegment_word word, ← List.map_cons, ih fun u hu => words u (List.mem_cons_of_mem _ hu),
        List.append_assoc, List.singleton_append]
      exact List.cons_ne_nil _ _

/-- What a path of words is made of. -/
theorem of_mem_intercalate {segments : List String} (words : ∀ s ∈ segments, IsWord s) {c : Char}
    (h : c ∈ ("/".intercalate segments).toList) : isWordChar c = true ∨ c = '/' := by
  induction segments with
  | nil => cases h
  | cons s segments ih =>
    have word := words s List.mem_cons_self
    cases segments with
    | nil =>
      rw [String.intercalate_singleton] at h
      exact .inl (word.plain c h)
    | cons t segments =>
      rw [String.intercalate_cons_cons, String.toList_append, String.toList_append] at h
      rcases List.mem_append.mp h with h | h
      · rcases List.mem_append.mp h with h | h
        · exact .inl (word.plain c h)
        · exact .inr (List.mem_singleton.mp h)
      · exact ih (fun u hu => words u (List.mem_cons_of_mem _ hu)) h

theorem cleaned_eq {text : String} (h : ∀ c ∈ text.toList, 32 < c.toNat) :
    cleaned text = text.toList := by
  have inside {cs : List Char} (hcs : ∀ c ∈ cs, 32 < c.toNat) :
      cs.dropWhile (fun c => decide (c.toNat ≤ 32)) = cs := by
    cases cs with
    | nil => rfl
    | cons c cs => exact List.dropWhile_cons_of_neg (by simpa using hcs c List.mem_cons_self)
  rw [cleaned, inside h, Text.dropEndWhile, inside fun c hc => h c (List.mem_reverse.mp hc),
    List.reverse_reverse]
  refine List.filter_eq_self.mpr fun c hc => ?_
  have high := h c hc
  have other (d : Char) (hd : d.toNat ≤ 32) : c ≠ d := by
    rintro rfl
    omega
  simp [other '\t' (by decide), other '\n' (by decide), other '\r' (by decide)]

theorem splitScheme?_eq_none {cs : List Char} (h : ':' ∉ cs) : splitScheme? cs = none := by
  rw [splitScheme?]
  split
  · rename_i rest eq
    exact absurd (List.mem_of_mem_drop (eq ▸ List.mem_cons_self)) h
  · rfl

theorem readSegments_words {segments : List String} (words : ∀ s ∈ segments, IsWord s)
    (some_segment : segments ≠ []) (parts : List String) :
    readSegments true parts ("/".intercalate segments).toList = (parts ++ segments, []) := by
  have path : ("/".intercalate segments).toList.takeWhile (!endsPath ·) =
      ("/".intercalate segments).toList := by
    refine List.takeWhile_eq_self_iff.mpr fun c hc => ?_
    rcases of_mem_intercalate words hc with word | rfl
    · rw [endsPath_wordChar word]
      rfl
    · rfl
  have split : pieces (isSlash true) ("/".intercalate segments).toList =
      segments.map String.toList := by
    rw [String.toList_intercalate]
    refine Text.pieces_intercalate (by decide) (fun w hw c hc => ?_) (by simpa using some_segment)
    obtain ⟨s, hs, rfl⟩ := List.mem_map.mp hw
    exact isSlash_wordChar ((words s hs).plain c hc)
  rw [readSegments, path, split, addSegments_words words, List.drop_length]

theorem exists_cons_intercalate {segments : List String} (words : ∀ s ∈ segments, IsWord s)
    (some_segment : segments ≠ []) :
    ∃ c cs, ("/".intercalate segments).toList = c :: cs ∧ isWordChar c = true := by
  obtain ⟨s, segments, rfl⟩ := List.exists_cons_of_ne_nil some_segment
  have word := words s List.mem_cons_self
  have leads : ∃ rest, ("/".intercalate (s :: segments)).toList = s.toList ++ rest := by
    cases segments with
    | nil => exact ⟨[], by rw [String.intercalate_singleton, List.append_nil]⟩
    | cons t segments =>
      rw [String.intercalate_cons_cons, String.toList_append, String.toList_append,
        List.append_assoc]
      exact ⟨_, rfl⟩
  obtain ⟨rest, leads⟩ := leads
  obtain ⟨c, cs, chars⟩ := List.exists_cons_of_ne_nil (mt String.toList_eq_nil_iff.mp word.nonempty)
  rw [chars] at leads
  exact ⟨c, cs ++ rest, leads, word.plain c (chars ▸ List.mem_cons_self)⟩

/-- A relative text that begins with a word character is a path, from the directory of the base. -/
theorem readRelative_word {base : Url} (special : isSpecial base.scheme = true) {c : Char}
    (word : isWordChar c = true) (parts : List String) (cs : List Char) :
    readRelative base parts (c :: cs) =
      .ok (withTail true
        { base with
          path := .segments (readSegments true parts.dropLast (c :: cs)).1
          fragment := none }
        (readSegments true parts.dropLast (c :: cs)).2) := by
  have other {d : Char} (hd : endsPath d = true) : c ≠ d := by
    rintro rfl
    rw [endsPath_wordChar word] at hd
    cases hd
  unfold readRelative
  rw [special]
  dsimp only
  -- nothing, a query and a fragment begin otherwise
  split
  · rename_i eq
    cases eq
  · rename_i eq
    cases eq
    exact absurd rfl (other rfl)
  · rename_i eq
    cases eq
    exact absurd rfl (other rfl)
  · rename_i eq
    cases eq
    rw [if_neg (by rw [isSlash_wordChar word]; decide)]

/-- Joining puts a path of words after the directory of the base. -/
theorem join_words {base : Url} {dir segments : List String}
    (special : isSpecial base.scheme = true) (directory : base.path = .segments (dir ++ [""]))
    (words : ∀ s ∈ segments, IsWord s) (some_segment : segments ≠ []) :
    base.join ("/".intercalate segments) =
      .ok { base with path := .segments (dir ++ segments), query := none, fragment := none } := by
  have chars {c : Char} (hc : c ∈ ("/".intercalate segments).toList) : 32 < c.toNat ∧ c ≠ ':' := by
    rcases of_mem_intercalate words hc with word | rfl
    · exact ⟨visible_wordChar word, wordChar_ne_colon word⟩
    · decide
  have read := readSegments_words words some_segment (dir ++ [""]).dropLast
  obtain ⟨c, cs, first, word⟩ := exists_cons_intercalate words some_segment
  rw [join, readFrom, cleaned_eq fun c hc => (chars hc).1,
    splitScheme?_eq_none fun h => (chars h).2 rfl]
  dsimp only
  rw [directory]
  dsimp only
  rw [first] at read ⊢
  rw [readRelative_word special word, read, List.dropLast_concat]
  rfl

/-! ### Addresses with segments -/

/-- The address that is read, if one is, has a property. -/
def Reads (P : Url → Prop) (x : Except UrlError Url) : Prop := ∀ u, x = .ok u → P u

namespace Reads

variable {P : Url → Prop} {α : Type}

theorem ok {u : Url} (h : P u) : Reads P (.ok u) := by
  rintro _ ⟨⟩
  exact h

theorem error (e : UrlError) : Reads P (.error e) := nofun

theorem bind {x : Except UrlError α} {f : α → Except UrlError Url} (h : ∀ a, Reads P (f a)) :
    Reads P (x >>= f) := by
  intro u hu
  obtain ⟨a, -, hf⟩ := Document.bind_eq_ok hu
  exact h a u hf

end Reads

/-- The path is a list of segments. -/
def HasSegments (u : Url) : Prop := ∃ parts, u.path = .segments parts

theorem hasSegments_withTail (special : Bool) {u : Url} (h : HasSegments u) (cs : List Char) :
    HasSegments (withTail special u cs) := h

/-- The continuations of the reader are taken from the last to the first. -/
theorem readAuthority_hasSegments (scheme : String) (cs : List Char) :
    Reads HasSegments (readAuthority scheme cs) := by
  rw [readAuthority]
  refine .bind fun ⟨username, password, cs⟩ => ?_
  dsimp -zeta only
  extract_lets text rest afterHost afterText
  clear_value rest
  have host_read (host : Host) : Reads HasSegments (afterHost host) := by
    dsimp -zeta only [afterHost]
    extract_lets afterPort afterCheck
    have port_read (x : Option Nat × List Char) : Reads HasSegments (afterPort x) :=
      .ok (hasSegments_withTail _ ⟨_, rfl⟩ _)
    have checked (r : PUnit) : Reads HasSegments (afterCheck r) := by
      dsimp only [afterCheck]
      split <;> exact .bind port_read
    split
    · exact .bind checked
    · exact checked ()
  have text_taken (r : PUnit) : Reads HasSegments (afterText r) := by
    dsimp only [afterText]
    split <;> exact .bind host_read
  split
  · exact .bind text_taken
  · exact text_taken ()

theorem readFile_hasSegments (cs : List Char) : Reads HasSegments (readFile cs) := by
  unfold readFile
  extract_lets afterHost
  have host_read (x : Host × List Char) : Reads HasSegments (afterHost x) :=
    .ok (hasSegments_withTail _ ⟨_, rfl⟩ _)
  split
  · split
    · dsimp only
      split <;> exact .bind fun host => .bind host_read
    · exact .bind host_read
  · exact .bind host_read

/-- Only an address whose scheme is not well known can be without segments. -/
theorem readAfterScheme_hasSegments (scheme : String) (cs : List Char) :
    Reads (fun u => isSpecial u.scheme = true → HasSegments u) (readAfterScheme none scheme cs) := by
  intro u read special
  unfold readAfterScheme at read
  dsimp only at read
  by_cases file : scheme = "file"
  · rw [if_pos file] at read
    exact readFile_hasSegments cs u read
  rw [if_neg file] at read
  by_cases known : isSpecial scheme = true
  · rw [if_pos known] at read
    exact readAuthority_hasSegments scheme _ u read
  rw [if_neg known] at read
  split at read
  · exact readAuthority_hasSegments scheme _ u read
  · cases read
    exact hasSegments_withTail _ ⟨_, rfl⟩ _
  · cases read
    exact absurd special known

/-- An address with a well known scheme has segments. -/
theorem read_hasSegments (text : String) :
    Reads (fun u => isSpecial u.scheme = true → HasSegments u) (read text) := by
  rw [read, readFrom]
  split
  · exact readAfterScheme_hasSegments _ _
  · exact .error _

theorem Path.toText_concat (dir : List String) :
    (Path.segments (dir ++ [""])).toText = (Path.segments dir).toText ++ "/" := by
  rw [toText, toText, List.map_append, String.join_append]
  rfl

theorem Path.toText_segments {segments : List String} (some_segment : segments ≠ []) :
    (Path.segments segments).toText = "/" ++ "/".intercalate segments := by
  induction segments with
  | nil => exact absurd rfl some_segment
  | cons s segments ih =>
    rw [toText, List.map_cons, String.join_cons]
    cases segments with
    | nil => rw [List.map_nil, String.join_nil, String.append_empty, String.intercalate_singleton]
    | cons t segments =>
      have rest := ih (List.cons_ne_nil t segments)
      rw [toText] at rest
      rw [rest, String.intercalate_cons_cons]
      simp only [String.append_assoc]

theorem Path.toText_append (dir : List String) {segments : List String}
    (some_segment : segments ≠ []) :
    (Path.segments (dir ++ segments)).toText =
      (Path.segments (dir ++ [""])).toText ++ "/".intercalate segments := by
  have rest := Path.toText_segments some_segment
  rw [toText] at rest
  rw [toText_concat, toText, toText, List.map_append, String.join_append, rest, String.append_assoc]

theorem scheme_asDirectory (u : Url) : u.asDirectory.scheme = u.scheme := by
  rw [asDirectory]
  split
  · split <;> rfl
  · rfl

/-- A directory is the address itself or the address with a slash after its path. -/
theorem exists_asDirectory {u : Url} (h : HasSegments u) :
    ∃ dir, u.asDirectory = { u with path := .segments (dir ++ [""]) } ∧
      (u.path = .segments (dir ++ [""]) ∨ u.path = .segments dir) := by
  obtain ⟨parts, path⟩ := h
  rw [asDirectory, path]
  dsimp only
  split
  · rename_i last
    obtain ⟨dir, rfl⟩ := List.getLast?_eq_some_iff.mp last
    exact ⟨dir, by rw [← path], .inl rfl⟩
  · exact ⟨parts, rfl, .inr rfl⟩

end TrafficTrace.Url
