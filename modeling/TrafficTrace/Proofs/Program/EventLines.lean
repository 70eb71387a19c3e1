import TrafficTrace.Program.EventLines

/-!
# The events on the lines of a file

A line is blank, holds an event, or breaks the reading off. The events are those of the lines before
the first that breaks it off, and this line is reported under its number among all lines.
-/
namespace TrafficTrace.EventLines

open Document

/-- The event on a line that has one. -/
def eventOn? (line : Option String) : Option Event :=
  line.bind fun text =>
    if Text.isAllBlank text then none else (Json.decodeText Event.decoder text).toOption

/-- A line that does not break the reading off. -/
inductive Readable : Option String → Prop where
  | blank (text : String) (blank : Text.isAllBlank text = true) : Readable (some text)
  | event (text : String) (e : Event) (held : Json.decodeText Event.decoder text = .ok e) :
      Readable (some text)

/-- A line that breaks it off, and how: its bytes are no text, or the text is neither blank nor an
event. -/
inductive BreaksOff (file : String) (number : Nat) : Option String → EventFault → Prop where
  | unreadable : BreaksOff file number none (.unreadable .notText)
  | malformed (text : String) (e : DecodeError) (written : Text.isAllBlank text = false)
      (refused : Json.decodeText Event.decoder text = .error e) :
      BreaksOff file number (some text) (.invalid file number e)

variable {file : String} {number : Nat} {line : Option String} {fault : EventFault}

/-- A line on its own: either nothing is wrong with it, or its fault ends the reading. -/
theorem readable_or_breaksOff (file : String) (number : Nat) (line : Option String) :
    Readable line ∨ ∃ fault, BreaksOff file number line fault := by
  cases line with
  | none => exact .inr ⟨_, .unreadable⟩
  | some text =>
    cases blank : Text.isAllBlank text with
    | true => exact .inl (.blank text blank)
    | false =>
      cases held : Json.decodeText Event.decoder text with
      | ok e => exact .inl (.event text e held)
      | error e => exact .inr ⟨_, .malformed text e blank held⟩

theorem read_cons_of_readable (h : Readable line) (file : String) (number : Nat)
    (rest : List (Option String)) :
    read file number (line :: rest) =
      ((eventOn? line).toList ++ (read file (number + 1) rest).1,
        (read file (number + 1) rest).2) := by
  cases h with
  | blank text blank =>
    have none : eventOn? (some text) = none := if_pos blank
    rw [read, if_pos blank, none]
    rfl
  | event text e held =>
    cases blank : Text.isAllBlank text with
    | true =>
      have none : eventOn? (some text) = none := if_pos blank
      rw [read, if_pos blank, none]
      rfl
    | false =>
      have some : eventOn? (some text) = some e := by
        rw [eventOn?, Option.bind_some, blank, held]
        rfl
      rw [read, blank, held, some]
      rfl

theorem read_cons_of_breaksOff (h : BreaksOff file number line fault)
    (rest : List (Option String)) : read file number (line :: rest) = ([], some fault) := by
  cases h with
  | unreadable => rfl
  | malformed text e written refused =>
    rw [read, written, refused]
    rfl

/-- Lines with which nothing is wrong give their events and hand on to what follows them. -/
theorem read_append {before : List (Option String)} (h : ∀ line ∈ before, Readable line)
    (file : String) (number : Nat) (rest : List (Option String)) :
    read file number (before ++ rest) =
      (before.filterMap eventOn? ++ (read file (number + before.length) rest).1,
        (read file (number + before.length) rest).2) := by
  induction before generalizing number with
  | nil => rfl
  | cons line before ih =>
    obtain ⟨first, others⟩ := List.forall_mem_cons.mp h
    have shifted : number + 1 + before.length = number + (line :: before).length := by
      rw [List.length_cons]
      omega
    have event : (line :: before).filterMap eventOn? =
        (eventOn? line).toList ++ before.filterMap eventOn? := by
      rw [List.filterMap_cons]
      cases eventOn? line <;> rfl
    rw [List.cons_append, read_cons_of_readable first, ih others, shifted, event,
      List.append_assoc]

/-- Nothing is wrong with any line: all events are read. -/
theorem read_of_readable {lines : List (Option String)} (h : ∀ line ∈ lines, Readable line)
    (file : String) (number : Nat) :
    read file number lines = (lines.filterMap eventOn?, none) := by
  have whole := read_append h file number []
  rw [List.append_nil] at whole
  rw [whole, read, List.append_nil]

/-- The first line that breaks the reading off is reported under its number, and the events are those
of the lines before it. -/
theorem read_of_breaksOff {before : List (Option String)} (h : ∀ line ∈ before, Readable line)
    (broken : BreaksOff file (number + before.length) line fault) (after : List (Option String)) :
    read file number (before ++ line :: after) = (before.filterMap eventOn?, some fault) := by
  rw [read_append h, read_cons_of_breaksOff broken, List.append_nil]

/-- Either nothing is wrong with any line, or one is the first to break the reading off. -/
theorem readable_or_first (file : String) (number : Nat) (lines : List (Option String)) :
    (∀ line ∈ lines, Readable line) ∨
      ∃ before line after fault, lines = before ++ line :: after ∧
        (∀ earlier ∈ before, Readable earlier) ∧
        BreaksOff file (number + before.length) line fault := by
  induction lines generalizing number with
  | nil => exact .inl nofun
  | cons line rest ih =>
    rcases readable_or_breaksOff file number line with readable | ⟨fault, broken⟩
    · rcases ih (number + 1) with all | ⟨before, other, after, fault, rfl, earlier, broken⟩
      · exact .inl (List.forall_mem_cons.mpr ⟨readable, all⟩)
      · refine .inr ⟨line :: before, other, after, fault, rfl, ?_, ?_⟩
        · exact List.forall_mem_cons.mpr ⟨readable, earlier⟩
        · have shifted : number + 1 + before.length = number + (line :: before).length := by
            rw [List.length_cons]
            omega
          exact shifted ▸ broken
    · exact .inr ⟨[], line, rest, fault, rfl, nofun, broken⟩

/-- Reading comes to its end exactly if nothing is wrong with any line. -/
theorem read_complete_iff (file : String) (number : Nat) (lines : List (Option String)) :
    (read file number lines).2 = none ↔ ∀ line ∈ lines, Readable line := by
  constructor
  · intro complete
    rcases readable_or_first file number lines with all | ⟨_, _, _, _, rfl, earlier, broken⟩
    · exact all
    · rw [read_of_breaksOff earlier broken] at complete
      cases complete
  · intro all
    rw [read_of_readable all]

example : read "f" 1 [some " ", some "x", none] = ([], some (.invalid "f" 2 .malformed)) := by
  decide +kernel

end TrafficTrace.EventLines
