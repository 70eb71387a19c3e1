import Mathlib.Data.List.Basic
import TrafficTrace.Proofs.Text.Framing
import TrafficTrace.Url.Percent

/-!
# Pairs are read back from the query they are written in

An encoded name or value holds neither of the marks that stand between pairs and within them, and
its bytes are found again one at a time.
-/
namespace TrafficTrace

namespace Text

theorem ofUtf8?_utf8 (s : String) : ofUtf8? (utf8 s.toList) = some s := by
  have bytes : (⟨(utf8 s.toList).toArray⟩ : ByteArray) = s.toByteArray := by
    conv => rhs; rw [← String.ofList_toList (s := s), String.toByteArray_ofList]
    exact ByteArray.ext (List.data_toByteArray).symm
  rw [ofUtf8?, bytes, String.fromUTF8?, dif_pos s.isValidUTF8]
  rfl

variable {p : Char → Bool} {w : List Char}

theorem pieces_of_plain (plain : ∀ c ∈ w, p c = false) : pieces p w = [w] := by
  induction w with
  | nil => rfl
  | cons c w ih =>
    rw [pieces, plain c List.mem_cons_self, ih fun d hd => plain d (List.mem_cons_of_mem _ hd)]
    rfl

theorem pieces_append_cons (plain : ∀ c ∈ w, p c = false) {sep : Char} (hsep : p sep = true)
    (rest : List Char) : pieces p (w ++ sep :: rest) = w :: pieces p rest := by
  induction w with
  | nil => rw [List.nil_append, pieces, if_pos hsep]
  | cons c w ih =>
    rw [List.cons_append, pieces, plain c List.mem_cons_self,
      ih fun d hd => plain d (List.mem_cons_of_mem _ hd)]
    rfl

/-- What is joined by a separator that stands in no part is split there again. -/
theorem pieces_intercalate {sep : Char} (hsep : p sep = true) {ws : List (List Char)}
    (plain : ∀ w ∈ ws, ∀ c ∈ w, p c = false) (some_part : ws ≠ []) :
    pieces p ([sep].intercalate ws) = ws := by
  induction ws with
  | nil => exact absurd rfl some_part
  | cons w ws ih =>
    have first := plain w List.mem_cons_self
    cases ws with
    | nil => rw [List.intercalate_singleton, pieces_of_plain first]
    | cons v ws =>
      rw [List.intercalate_cons_cons, List.append_assoc, List.singleton_append,
        pieces_append_cons first hsep,
        ih (fun u hu => plain u (List.mem_cons_of_mem _ hu)) (List.cons_ne_nil v ws)]

end Text

namespace Url

open Text (utf8 ofUtf8? hexValue? pieces splitFirst)

theorem utf8_append (cs ds : List Char) : utf8 (cs ++ ds) = utf8 cs ++ utf8 ds :=
  List.flatMap_append

theorem percentDecode_cons {b : UInt8} (h : b ≠ 37) (bs : List UInt8) :
    percentDecode (b :: bs) = b :: percentDecode bs := by
  match bs with
  | [] => rfl
  | [_] => rfl
  | _ :: _ :: _ => rw [percentDecode, if_neg h]

/-- The bytes that a reader of pairs sees for some characters: a plus sign stands for a blank. -/
def formBytes (cs : List Char) : List UInt8 := utf8 (cs.map fun c => if c = '+' then ' ' else c)

theorem formBytes_append (cs ds : List Char) :
    formBytes (cs ++ ds) = formBytes cs ++ formBytes ds := by
  rw [formBytes, List.map_append, utf8_append]
  rfl

/-- A kept byte is one character of its own, which is neither the sign of an encoded byte nor that of
a blank. -/
theorem formBytes_kept :
    ∀ n < 256, inForm n = true →
      formBytes [Char.ofNat n] = [UInt8.ofNat n] ∧ UInt8.ofNat n ≠ 37 := by
  decide +kernel

theorem formBytes_upperDigit : ∀ n < 16,
    ∃ d : UInt8, formBytes [upperDigit n] = [d] ∧ hexValue? (Char.ofNat d.toNat) = some n := by
  intro n hn
  exact ⟨UInt8.ofNat (upperDigit n).toNat, by revert n; decide⟩

theorem percentDecode_percentByte (b : UInt8) (rest : List UInt8) :
    percentDecode (formBytes (percentByte b) ++ rest) = b :: percentDecode rest := by
  have size : b.toNat < 256 := b.toNat_lt
  obtain ⟨x, hx, high⟩ := formBytes_upperDigit (b.toNat / 16) (by omega)
  obtain ⟨y, hy, low⟩ := formBytes_upperDigit (b.toNat % 16) (by omega)
  have three : formBytes (percentByte b) = [37, x, y] :=
    calc formBytes (percentByte b)
      _ = formBytes ['%'] ++ (formBytes [upperDigit (b.toNat / 16)]
          ++ formBytes [upperDigit (b.toNat % 16)]) := by
        rw [← formBytes_append, ← formBytes_append]
        rfl
      _ = [37, x, y] := by rw [hx, hy]; rfl
  have value : UInt8.ofNat (b.toNat / 16 * 16 + b.toNat % 16) = b := by
    rw [Nat.div_add_mod' b.toNat 16, UInt8.ofNat_toNat]
  rw [three, List.cons_append, List.cons_append, List.cons_append, List.nil_append, percentDecode,
    if_pos rfl, high, low]
  dsimp only
  rw [value]

theorem percentDecode_formByte (b : UInt8) (rest : List UInt8) :
    percentDecode (formBytes (formByte b) ++ rest) = b :: percentDecode rest := by
  rw [formByte]
  split
  · rename_i blank
    rw [blank]
    exact percentDecode_cons (by decide) rest
  · rw [encodeByte]
    split
    · rename_i kept
      obtain ⟨same, other⟩ := formBytes_kept b.toNat b.toNat_lt kept
      rw [UInt8.ofNat_toNat] at same other
      rw [same]
      exact percentDecode_cons other rest
    · exact percentDecode_percentByte b rest

theorem percentDecode_formBytes (bs : List UInt8) :
    percentDecode (formBytes (bs.flatMap formByte)) = bs := by
  induction bs with
  | nil => rfl
  | cons b bs ih => rw [List.flatMap_cons, formBytes_append, percentDecode_formByte, ih]

/-- A name or value is read back from its encoding. -/
theorem formDecode?_formEncode (s : String) : formDecode? (formEncode s) = some s := by
  change ofUtf8? (percentDecode (formBytes (formEncode s))) = some s
  rw [formEncode, percentDecode_formBytes, Text.ofUtf8?_utf8]

theorem formByte_plain :
    ∀ n < 256, (formByte (UInt8.ofNat n)).all (fun c => c ≠ '&' ∧ c ≠ '=') = true := by
  decide +kernel

theorem formEncode_plain {s : String} {c : Char} (h : c ∈ formEncode s) : c ≠ '&' ∧ c ≠ '=' := by
  obtain ⟨b, -, hc⟩ := List.mem_flatMap.mp h
  have plain := List.all_eq_true.mp (formByte_plain b.toNat b.toNat_lt) c
  rw [UInt8.ofNat_toNat] at plain
  exact of_decide_eq_true (plain hc)

theorem formPair_plain {p : String × String} {c : Char} (h : c ∈ formPair p) : c ≠ '&' := by
  rcases List.mem_append.mp h with name | value
  · exact (formEncode_plain name).1
  · rcases List.mem_cons.mp value with rfl | value
    · decide
    · exact (formEncode_plain value).1

/-- Reading a query gives back the pairs that were written, in their order. -/
theorem formRead?_formPairs (ps : List (String × String)) : formRead? (formPairs ps) = some ps := by
  cases ps with
  | nil => rfl
  | cons p ps =>
    have split : pieces (· = '&') (formPairs (p :: ps)) = (p :: ps).map formPair := by
      refine Text.pieces_intercalate (by decide) (fun w hw c hc => ?_) (List.cons_ne_nil _ _)
      obtain ⟨q, -, rfl⟩ := List.mem_map.mp hw
      exact decide_eq_false (formPair_plain hc)
    have full : ((p :: ps).map formPair).filter (!·.isEmpty) = (p :: ps).map formPair := by
      refine List.filter_eq_self.mpr fun w hw => ?_
      obtain ⟨q, -, rfl⟩ := List.mem_map.mp hw
      simp [formPair]
    rw [formRead?, split, full]
    induction p :: ps with
    | nil => rfl
    | cons q qs ih =>
      have name : splitFirst '=' (formPair q) = some (formEncode q.1, formEncode q.2) :=
        Text.splitFirst_append (fun h => (formEncode_plain h).2 rfl) _
      rw [List.map_cons, List.mapM_cons, ih, name]
      dsimp only
      rw [formDecode?_formEncode, formDecode?_formEncode]
      rfl

end Url

end TrafficTrace
