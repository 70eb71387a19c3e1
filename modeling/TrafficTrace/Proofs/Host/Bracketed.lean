import Mathlib.Data.List.Induction
import TrafficTrace.Proofs.Host.Spelling
import TrafficTrace.Proofs.Text.Hexadecimal

/-!
# Addresses in brackets

A port is only told by the one colon of a host. An address in brackets that holds colons itself
therefore keeps what is written behind it, and patterns for the address do not meet it there.
-/
namespace TrafficTrace

open Text

namespace Event

variable {cs : List Char}

theorem isSmallHexDigit_of_isDigit {c : Char} (h : Json.isDigit c = true) : IsSmallHexDigit c := by
  rw [Json.isDigit, Bool.and_eq_true, decide_eq_true_eq, decide_eq_true_eq] at h
  exact .inl h

/-- What ends in neither a digit nor a colon ends in no port. -/
theorem withoutPort_of_last {c : Char} (last : cs.getLast? = some c) (colon : c ≠ ':')
    (digit : Json.isDigit c = false) : withoutPort cs = cs := by
  obtain ⟨front, rfl⟩ := List.getLast?_eq_some_iff.mp last
  rw [withoutPort]
  split
  · rename_i name port split
    obtain ⟨parts, -⟩ := splitLast_eq_some split
    -- What follows the last colon is empty or ends in `c`, and neither is so for a port.
    have kept : port.all Json.isDigit = false := by
      cases port using List.reverseRecOn with
      | nil =>
        have same := List.append_inj_right' parts rfl
        exact absurd (List.cons_eq_cons.mp same).1 colon
      | append_singleton port d =>
        rw [← List.cons_append, ← List.append_assoc] at parts
        have same := List.append_inj_right' parts rfl
        obtain rfl : c = d := (List.cons_eq_cons.mp same).1
        simp [digit]
    simp [kept]
  · rfl

/-- A second colon keeps the last one from being that of a port. -/
theorem withoutPort_of_colon {ds : List Char} (absent : ':' ∉ ds) (colon : ':' ∈ cs) :
    withoutPort (cs ++ ':' :: ds) = cs ++ ':' :: ds := by
  have kept : cs.all (fun c => decide (c ≠ ':')) = false := by
    rw [List.all_eq_false]
    exact ⟨':', colon, by decide⟩
  rw [withoutPort, splitLast_append absent]
  simp only [kept, Bool.false_and, if_neg Bool.false_ne_true]

/-- Where nothing is taken away, the name is the host in lower case. -/
theorem hostNameOf_eq_lower (first : Ends isBlank cs) (last : Ends isBlank cs.reverse)
    (whole : withoutPort cs = cs) (undotted : Ends (fun c => decide (c = '.')) cs.reverse) :
    hostNameOf (String.ofList cs) = lower (String.ofList cs) := by
  have trimmed : trimChars cs = cs := by
    have padded : trimChars ([] ++ cs ++ []) = cs := trimChars_padded nofun nofun first last
    rwa [List.nil_append, List.append_nil] at padded
  have dropped : dropEndWhile (fun c => decide (c = '.')) cs = cs := by
    have padded : dropEndWhile (fun c => decide (c = '.')) (cs ++ []) = cs :=
      dropEndWhile_append_of_ends nofun undotted
    rwa [List.append_nil] at padded
  rw [hostNameOf, String.toList_ofList, trimmed, whole, dropped]

end Event

/-- An address in brackets: hexadecimal digits, colons and dots. -/
structure Bracketed where
  inner : List Char
  plain : inner.all (fun c => decide (IsHexDigit c ∨ c = ':' ∨ c = '.')) = true

namespace Bracketed

variable (a : Bracketed)

def chars : List Char := '[' :: a.inner ++ [']']

def write : String := String.ofList a.chars

/-- The address with a colon and a port behind it. -/
def writeWith (port : List Char) : String := a.write ++ ":" ++ String.ofList port

theorem writeWith_eq (port : List Char) :
    a.writeWith port = String.ofList (a.chars ++ ':' :: port) := by
  apply String.toList_inj.mp
  simp [writeWith, write]

/-! ### Where the address begins and ends -/

theorem ends_chars {p : Char → Bool} (h : p '[' = false) : Ends p a.chars := ends_cons h _

theorem ends_reverse {p : Char → Bool} (h : p ']' = false) : Ends p a.chars.reverse := by
  rw [chars, List.reverse_append]
  exact ends_cons h _

theorem ends_writeWith {p : Char → Bool} (h : p '[' = false) (port : List Char) :
    Ends p (a.chars ++ ':' :: port) :=
  ends_cons h _

theorem ends_reverse_writeWith {p : Char → Bool} {port : List Char} (colon : p ':' = false)
    (digits : ∀ c ∈ port, p c = false) : Ends p (a.chars ++ ':' :: port).reverse := by
  rw [List.reverse_append, List.reverse_cons, List.append_assoc]
  exact Ends.append (ends_of_forall fun c hc => digits c (List.mem_reverse.mp hc))
    (ends_cons colon _)

theorem colon_mem_chars_iff : ':' ∈ a.chars ↔ ':' ∈ a.inner := by
  simp [chars]

theorem toNat_lt_of_mem_chars : ∀ c ∈ a.chars, c.toNat < 128 := by
  intro c hc
  rw [chars, List.cons_append] at hc
  rcases List.mem_cons.mp hc with rfl | hc
  · decide
  · rcases List.mem_append.mp hc with hc | hc
    · have plain := List.all_eq_true.mp a.plain c hc
      rcases of_decide_eq_true plain with digit | rfl | rfl
      · exact digit.toNat_lt
      · decide
      · decide
    · obtain rfl := List.mem_singleton.mp hc
      decide

/-! ### Its name, alone and with a port -/

theorem hostNameOf_write : Event.hostNameOf a.write = lower a.write := by
  have whole : Event.withoutPort a.chars = a.chars :=
    Event.withoutPort_of_last (List.getLast?_concat) (by decide) (by decide)
  exact Event.hostNameOf_eq_lower (a.ends_chars (by decide)) (a.ends_reverse (by decide)) whole
    (a.ends_reverse (by decide))

variable {port : List Char}

theorem lower_writeWith (digits : ∀ c ∈ port, Json.isDigit c = true) :
    lower (a.writeWith port) = lower a.write ++ ":" ++ String.ofList port := by
  have small : ∀ c ∈ port, IsSmallHexDigit c := fun c hc =>
    Event.isSmallHexDigit_of_isDigit (digits c hc)
  have same : port.map asciiLowerChar = port := map_asciiLowerChar_eq small
  have ascii : ∀ c ∈ a.chars ++ ':' :: port, c.toNat < 128 := by
    intro c hc
    rcases List.mem_append.mp hc with hc | hc
    · exact a.toNat_lt_of_mem_chars c hc
    · rcases List.mem_cons.mp hc with rfl | hc
      · decide
      · exact IsHexDigit.toNat_lt (.inl (small c hc))
  have colon : asciiLowerChar ':' = ':' := by decide
  rw [writeWith_eq, lower_of_ascii ascii, write, lower_of_ascii a.toNat_lt_of_mem_chars]
  apply String.toList_inj.mp
  simp [same, colon]

/-- Behind an address with colons a port is not seen. -/
theorem hostNameOf_writeWith_of_colon (digits : ∀ c ∈ port, Json.isDigit c = true)
    (colon : ':' ∈ a.inner) :
    Event.hostNameOf (a.writeWith port) = lower a.write ++ ":" ++ String.ofList port := by
  have absent : ':' ∉ port := fun h => absurd (digits ':' h) (by decide)
  have undotted : ∀ c ∈ port, decide (c = '.') = false := by
    intro c hc
    rw [decide_eq_false_iff_not]
    rintro rfl
    exact absurd (digits '.' hc) (by decide)
  have visible : ∀ c ∈ port, isBlank c = false := fun c hc =>
    isBlank_eq_false_of_isDigit (digits c hc)
  have whole := Event.withoutPort_of_colon absent (a.colon_mem_chars_iff.mpr colon)
  rw [← a.lower_writeWith digits, writeWith_eq]
  exact Event.hostNameOf_eq_lower (a.ends_writeWith (by decide) port)
    (a.ends_reverse_writeWith (by decide) visible) whole
    (a.ends_reverse_writeWith (by decide) undotted)

/-- Without a colon the address is a bare host, of which the port is one spelling. -/
theorem hostNameOf_writeWith_of_no_colon (digits : ∀ c ∈ port, Json.isDigit c = true)
    (clear : ':' ∉ a.inner) : Event.hostNameOf (a.writeWith port) = lower a.write := by
  have text : a.write.toList = a.chars := String.toList_ofList
  have bare : Event.IsBare a.write := by
    refine ⟨?_, ?_, ?_, ?_⟩ <;> rw [text]
    · exact mt a.colon_mem_chars_iff.mp clear
    · exact a.ends_chars (by decide)
    · exact a.ends_reverse (by decide)
    · exact a.ends_reverse (by decide)
  let s : Event.Spelling := ⟨[], 0, some port, [], rfl, List.all_eq_true.mpr digits, rfl⟩
  have spelled : s.write a.write = a.writeWith port := by
    rw [writeWith_eq, Event.Spelling.write, text]
    simp [s, Event.Spelling.dotText, Event.Spelling.portText]
  rw [← spelled, s.hostNameOf_write bare]

/-- Digits behind an address in brackets are taken away when no colon stands in the brackets. An
address with colons keeps them, with the colon that is before them: its name is then another than
without a port. -/
theorem port_stripped_iff_no_colon (a : Bracketed) (port : List Char)
    (digits : port.all Json.isDigit = true) (e : Event) :
    let bare := { e with host := a.write }
    let ported := { e with host := a.writeWith port }
    bare.hostName = lower a.write ∧
      (':' ∉ a.inner → ported.hostName = bare.hostName) ∧
      (':' ∈ a.inner → ported.hostName = bare.hostName ++ ":" ++ String.ofList port) ∧
      (ported.hostName = bare.hostName ↔ ':' ∉ a.inner) := by
  intro bare ported
  have digits := List.all_eq_true.mp digits
  have alone : bare.hostName = lower a.write := a.hostNameOf_write
  have clear (h : ':' ∉ a.inner) : ported.hostName = bare.hostName := by
    rw [alone]
    exact a.hostNameOf_writeWith_of_no_colon digits h
  have kept (h : ':' ∈ a.inner) : ported.hostName = bare.hostName ++ ":" ++ String.ofList port := by
    rw [alone]
    exact a.hostNameOf_writeWith_of_colon digits h
  refine ⟨alone, clear, kept, fun same colon => ?_, clear⟩
  have longer := congrArg String.length ((kept colon).symm.trans same)
  simp only [String.length_append] at longer
  have one : (":" : String).length = 1 := rfl
  omega

/-- A group of an address, and a whole one. -/
theorem port_stripped_iff_no_colon_loopback :
    let group : Bracketed := ⟨['C', 'a', 'f', 'e'], rfl⟩
    let loopback : Bracketed := ⟨[':', ':', '1'], rfl⟩
    let port := ['8', '4', '4', '3']
    let e : Event := .request "GET" "" "/" .epoch
    group.writeWith port = "[Cafe]:8443" ∧
      { e with host := group.writeWith port }.hostName = { e with host := group.write }.hostName ∧
      loopback.writeWith port = "[::1]:8443" ∧
      { e with host := loopback.writeWith port }.hostName ≠
        { e with host := loopback.write }.hostName := by
  intro group loopback port e
  have digits : port.all Json.isDigit = true := rfl
  obtain ⟨-, clear, -, -⟩ := port_stripped_iff_no_colon group port digits e
  obtain ⟨-, -, -, same⟩ := port_stripped_iff_no_colon loopback port digits e
  have colon : ':' ∈ loopback.inner := by decide
  exact ⟨rfl, clear (by decide), rfl, fun equal => same.mp equal colon⟩

/-- A pattern for a whole address excludes its events without a port, and with a port it does not. -/
theorem port_hides_bracketed_host :
    let bare : Event := .request "GET" "[::1]" "/" .epoch
    let ported : Event := .request "GET" "[::1]:8443" "/" .epoch
    bare.hostName = "[::1]" ∧ ported.hostName = "[::1]:8443" ∧ ported.hostName ≠ bare.hostName ∧
      (ExclusionRules.compile ["^\\[::1\\]$"] []).toOption.map
        (fun rules => (rules.excludes bare, rules.excludes ported)) = some (true, false) := by
  decide +kernel

end Bracketed

end TrafficTrace
