import TrafficTrace.Proofs.Json.Reading
import TrafficTrace.Proofs.Json.Unambiguous

/-!
# Strings as whole documents

What is written as a string is read as that string, and a text is only found where a string is
written. So a type with a reader of its own has exactly the JSON texts of the strings that this
reader takes.
-/
namespace TrafficTrace.Json

open Document

theorem joinUnits_map_char (cs : List Char) : joinUnits (cs.map .char) = some cs := by
  induction cs with
  | nil => rfl
  | cons c cs ih =>
    rw [List.map_cons, joinUnits, ih]
    rfl

theorem readString_write (cs rest : List Char) :
    readString (cs.flatMap escapeChar ++ '"' :: rest) = some (some (String.ofList cs), rest) := by
  rw [readString, readUnits_write]
  simp [joinUnits_map_char]

theorem readText_str (s : String) : readText (Json.str s).toText = (.string (some s), true) := by
  have written : (Json.str s).toText.toList = '"' :: (s.toList.flatMap escapeChar ++ ['"']) := by
    rw [toText, String.toList_ofList, write, writeString]
    rfl
  have read := readString_write s.toList []
  rw [String.ofList_toList] at read
  have start (cs : List Char) : skipSpace ('"' :: cs) = '"' :: cs := rfl
  rw [readText, written, readValue, start]
  simp [read]

/-- A string in which nothing is escaped is written in quotes as it is. -/
theorem toText_str {s : String} (plain : ∀ c ∈ s.toList, escapeChar c = [c]) :
    (Json.str s).toText = "\"" ++ s ++ "\"" := by
  have body : s.toList.flatMap escapeChar = s.toList := by
    rw [List.flatMap_congr plain, List.flatMap_singleton']
  apply String.toList_inj.mp
  rw [toText, String.toList_ofList, write, writeString, body]
  simp

/-- A node with a text is a string. -/
def TextIsString (n : Node) : Prop := ∀ s, Decoder.text n = .ok s → n = .string (some s)

theorem textIsString_of_error {n : Node} (h : Decoder.text n = .error .malformed) :
    TextIsString n := by
  intro s hs
  rw [h] at hs
  cases hs

theorem textIsString_string (value : Option String) : TextIsString (.string value) := by
  cases value with
  | none => exact textIsString_of_error rfl
  | some text =>
    intro s h
    obtain rfl := Except.ok.inj h
    rfl

theorem textIsString_atDepth {n : Node} {depth : Nat} (h : Decoder.text n = .error .malformed) :
    TextIsString (atDepth depth n) := by
  rw [atDepth]
  split
  · exact textIsString_of_error h
  · exact textIsString_of_error rfl

/-- Scalars without quotes have no place in JSON. -/
theorem readInvariant_textIsString : ReadInvariant fun _ n => TextIsString n where
  fault _ := textIsString_of_error rfl
  null _ := textIsString_of_error rfl
  bool _ _ := textIsString_of_error rfl
  string _ value := textIsString_string value
  number _ _ := textIsString_of_error rfl
  array _ _ _ _ := textIsString_atDepth rfl
  object _ _ _ _ := textIsString_atDepth rfl

theorem textIsString_readText (t : String) : TextIsString (readText t).1 :=
  readInvariant_textIsString.readText t

/-- A text that has to pass a reader is decoded from a string that is the whole document. -/
theorem decodeText_refined_iff {α : Type} {read : String → Except String α} {t : String} {a : α} :
    decodeText (Decoder.refined read) t = .ok a ↔
      ∃ s, readText t = (.string (some s), true) ∧ read s = .ok a := by
  have string := textIsString_readText t
  rw [decodeText]
  generalize readText t = document at string ⊢
  obtain ⟨n, complete⟩ := document
  constructor
  · intro h
    obtain ⟨b, decoded, finished⟩ := bind_eq_ok h
    obtain ⟨s, text, accepted⟩ := bind_eq_ok decoded
    obtain rfl : n = .string (some s) := string s text
    cases complete with
    | false => cases finished
    | true =>
      obtain rfl := Except.ok.inj finished
      cases result : read s with
      | error reason =>
        rw [result] at accepted
        cases accepted
      | ok c =>
        rw [result] at accepted
        obtain rfl : c = b := Except.ok.inj accepted
        exact ⟨s, rfl, result⟩
  · rintro ⟨s, same, accepted⟩
    obtain ⟨rfl, rfl⟩ := Prod.mk.inj same
    simp [Decoder.refined, Decoder.text, accepted, bind, Except.bind, pure, Except.pure]

end TrafficTrace.Json
