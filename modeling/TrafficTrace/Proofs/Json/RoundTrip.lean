import Mathlib.Data.List.DropRight
import TrafficTrace.Proofs.Json.Integers
import TrafficTrace.Proofs.Json.Strings

/-!
# A value is read from its own text

The compact text of a value without fractions is read as that value, wherever it stands in a larger
text, if its integers have 64 bits and its containers are nested no deeper than is read. Each character
of the text lets the reader go a step further, so that its fuel lasts. A reader passes over blanks
wherever a value, a key or a mark may stand, so that the indented text is read as the same value.
-/
namespace TrafficTrace.Json

open Document Text

variable {rest : List Char}

/-! ### What follows a value -/

theorem goesOn_afterItem (js : List Json) (r : List Char) : Ends goesOn (afterItem js ++ r) := by
  cases js with
  | nil => exact ends_cons rfl _
  | cons j js => exact ends_cons rfl _

theorem goesOn_afterMember (ms : List (String × Json)) (r : List Char) :
    Ends goesOn (afterMember ms ++ r) := by
  cases ms with
  | nil => exact ends_cons rfl _
  | cons m ms => exact ends_cons rfl _

theorem skipSpace_of_shape {c : Char} (shape : shapeOf c ≠ .other) (r : List Char) :
    skipSpace (c :: r) = c :: r := by
  have visible : isSpace c = false := by
    rw [Bool.eq_false_iff]
    intro space
    simp only [isSpace, Bool.or_eq_true, decide_eq_true_eq] at space
    rcases space with ((rfl | rfl) | rfl) | rfl <;> exact shape rfl
  rw [skipSpace, List.dropWhile_cons_of_neg (by simp [visible])]

theorem shape_ne_other (j : Json) : j.shape ≠ .other := by
  cases j with
  | bool b => cases b <;> decide
  | _ => simp [shape]

theorem skipSpace_write (j : Json) (r : List Char) : skipSpace (j.write ++ r) = j.write ++ r := by
  obtain ⟨c, cs, text, shape⟩ := j.write_eq_cons
  rw [text, List.cons_append]
  exact skipSpace_of_shape (shape ▸ j.shape_ne_other) _

/-! ### Scalars -/

variable {fuel depth : Nat}

theorem readValue_number {c : Char} {cs : List Char} (shape : shapeOf c = .number) :
    readValue (fuel + 1) depth (c :: cs) =
      match readNumber (c :: cs) with
      | some (t, rest) => (.number t.value?, some rest)
      | none => (.fault, none) := by
  have start : skipSpace (c :: cs) = c :: cs := by
    apply skipSpace_of_shape
    rw [shape]
    decide
  rw [shapeOf] at shape
  split_ifs at shape with null yes no string array object number
  rw [readValue, start]
  dsimp only
  -- the branches for the other shapes do not apply
  exact (if_neg null).trans <| (if_neg yes).trans <| (if_neg no).trans <|
    (if_neg string).trans <| (if_neg array).trans <| if_neg object

theorem readValue_writeInt {n : Int} (word : Node.IsWord n) (ends : Ends goesOn rest) :
    readValue (fuel + 1) depth (writeInt n ++ rest) = (.number (some (.int n)), some rest) := by
  obtain ⟨c, cs, text, shape⟩ := (Json.int n).write_eq_cons
  rw [write] at text
  have number := readNumber_writeInt n ends
  rw [text, List.cons_append] at number ⊢
  rw [readValue_number shape, number]
  dsimp only
  rw [value?_digitsOf word]

theorem readValue_writeString (s : String) :
    readValue (fuel + 1) depth (writeString s ++ rest) = (.string (some s), some rest) := by
  have text : writeString s ++ rest = '"' :: (s.toList.flatMap escapeChar ++ '"' :: rest) := by
    simp [writeString]
  have read := readString_write s.toList rest
  rw [String.ofList_toList] at read
  have start (cs : List Char) : skipSpace ('"' :: cs) = '"' :: cs := rfl
  rw [text, readValue, start]
  simp [read]

/-! ### Containers -/

theorem readValue_array {cs : List Char} (start : skipSpace cs = cs) (first : ∀ r, cs ≠ ']' :: r) :
    readValue (fuel + 1) depth ('[' :: cs) =
      (atDepth depth (.array (readItems fuel (depth + 1) cs).1.1 (readItems fuel (depth + 1) cs).1.2),
        (readItems fuel (depth + 1) cs).2) := by
  have here : skipSpace ('[' :: cs) = '[' :: cs := rfl
  rw [readValue, here]
  simp only [Char.reduceEq, if_false, if_true, start]

theorem readValue_object {cs : List Char} (start : skipSpace cs = cs)
    (first : ∀ r, cs ≠ '\x7d' :: r) :
    readValue (fuel + 1) depth ('\x7b' :: cs) =
      (atDepth depth
          (.object (readMembers fuel (depth + 1) cs).1.1 (readMembers fuel (depth + 1) cs).1.2),
        (readMembers fuel (depth + 1) cs).2) := by
  have here : skipSpace ('\x7b' :: cs) = '\x7b' :: cs := rfl
  rw [readValue, here]
  simp only [Char.reduceEq, if_false, if_true, start]

theorem readItems_last {n : Node} {cs after : List Char}
    (value : readValue fuel depth cs = (n, some after)) (next : skipSpace after = ']' :: rest) :
    readItems (fuel + 1) depth cs = (([n], true), some rest) := by
  rw [readItems, value]
  simp only [next]

theorem readItems_more {n : Node} {cs r : List Char} {ns : List Node}
    (value : readValue fuel depth cs = (n, some (',' :: r)))
    (items : readItems fuel depth r = ((ns, true), some rest)) :
    readItems (fuel + 1) depth cs = ((n :: ns, true), some rest) := by
  have next : skipSpace (',' :: r) = ',' :: r := rfl
  rw [readItems, value]
  simp only [next, items]

/-- A key is read from its text. -/
theorem readString_key (key : String) (cs : List Char) :
    readString (key.toList.flatMap escapeChar ++ '"' :: cs) = some (some key, cs) := by
  have read := readString_write key.toList cs
  rwa [String.ofList_toList] at read

theorem skipSpace_key (key : String) (cs : List Char) :
    skipSpace (writeString key ++ cs) = '"' :: (key.toList.flatMap escapeChar ++ '"' :: cs) := by
  have text : writeString key ++ cs = '"' :: (key.toList.flatMap escapeChar ++ '"' :: cs) := by
    simp [writeString]
  rw [text]
  rfl

theorem readMembers_last {key : String} {n : Node} {cs after : List Char}
    (value : readValue fuel depth cs = (n, some after)) (next : skipSpace after = '\x7d' :: rest) :
    readMembers (fuel + 1) depth (writeString key ++ ':' :: cs) =
      (([(some key, n)], true), some rest) := by
  have colon : skipSpace (':' :: cs) = ':' :: cs := rfl
  rw [readMembers, skipSpace_key]
  simp only [readString_key, colon, value, next]

theorem readMembers_more {key : String} {n : Node} {cs r : List Char}
    {ms : List (Option String × Node)}
    (value : readValue fuel depth cs = (n, some (',' :: r)))
    (members : readMembers fuel depth r = ((ms, true), some rest)) :
    readMembers (fuel + 1) depth (writeString key ++ ':' :: cs) =
      (((some key, n) :: ms, true), some rest) := by
  have colon : skipSpace (':' :: cs) = ':' :: cs := rfl
  have next : skipSpace (',' :: r) = ',' :: r := rfl
  rw [readMembers, skipSpace_key]
  simp only [readString_key, colon, value, next, members]

theorem skipSpace_writeItems (js : List Json) (r : List Char) :
    skipSpace (writeItems js ++ r) = writeItems js ++ r := by
  cases js with
  | nil => rfl
  | cons j js =>
    rw [writeItems_cons, List.append_assoc]
    exact skipSpace_write j _

theorem skipSpace_writeMembers (ms : List (String × Json)) (r : List Char) :
    skipSpace (writeMembers ms ++ r) = writeMembers ms ++ r := by
  cases ms with
  | nil => rfl
  | cons m ms =>
    rw [writeMembers_cons]
    rfl

theorem write_length_pos (j : Json) : 0 < j.write.length := by
  obtain ⟨c, cs, text, -⟩ := j.write_eq_cons
  rw [text]
  exact Nat.succ_pos _

mutual
/-- A value is read from its text, whatever follows it that does not go on with a number. -/
theorem readValue_write (j : Json) {room : Nat} (within : (Node.ofJson j).Within room)
    (whole : j.floats = []) {fuel depth : Nat} (shallow : depth + room ≤ depthLimit)
    (enough : j.write.length ≤ fuel) {rest : List Char} (ends : Ends goesOn rest) :
    readValue fuel depth (j.write ++ rest) = (Node.ofJson j, some rest) := by
  have long := j.write_length_pos
  obtain ⟨fuel, rfl⟩ : ∃ f, fuel = f + 1 := ⟨fuel - 1, by omega⟩
  cases j with
  | null => rfl
  | bool b => cases b <;> rfl
  | int n =>
    rw [write, Node.ofJson]
    exact readValue_writeInt within ends
  | float x => cases whole
  | str s =>
    rw [write, Node.ofJson]
    exact readValue_writeString s
  | arr items =>
    obtain ⟨left, inner⟩ := Node.within_ofJson_arr_iff.mp within
    have here : depth < depthLimit := by omega
    rw [write, List.length_cons] at enough
    rw [write, Node.ofJson, List.cons_append]
    cases items with
    | nil =>
      change (atDepth depth (.array [] true), some rest) = _
      rw [atDepth, if_pos here]
      rfl
    | cons j js =>
      have inside : depth + 1 + (room - 1) ≤ depthLimit := by omega
      have items := readItems_write (j :: js) (List.cons_ne_nil _ _) inner whole inside
        (Nat.le_of_succ_le_succ enough) rest
      have first (r : List Char) : writeItems (j :: js) ++ rest ≠ ']' :: r := by
        rw [writeItems_cons, List.append_assoc]
        exact write_append_ne rfl j _ _
      rw [readValue_array (skipSpace_writeItems _ _) first, items, atDepth, if_pos here]
  | obj ms =>
    obtain ⟨left, inner⟩ := Node.within_ofJson_obj_iff.mp within
    have here : depth < depthLimit := by omega
    rw [write, List.length_cons] at enough
    rw [write, Node.ofJson, List.cons_append]
    cases ms with
    | nil =>
      change (atDepth depth (.object [] true), some rest) = _
      rw [atDepth, if_pos here]
      rfl
    | cons m ms =>
      have inside : depth + 1 + (room - 1) ≤ depthLimit := by omega
      have members := readMembers_write (m :: ms) (List.cons_ne_nil _ _) inner whole inside
        (Nat.le_of_succ_le_succ enough) rest
      have start := skipSpace_writeMembers (m :: ms) rest
      have first (r : List Char) : writeMembers (m :: ms) ++ rest ≠ '\x7d' :: r := by
        rw [writeMembers_cons]
        nofun
      rw [readValue_object start first, members, atDepth, if_pos here]

theorem readItems_write (js : List Json) (filled : js ≠ []) {room : Nat}
    (within : ∀ k ∈ js, (Node.ofJson k).Within room) (whole : floatsOfItems js = [])
    {fuel depth : Nat} (shallow : depth + room ≤ depthLimit)
    (enough : (writeItems js).length ≤ fuel) (rest : List Char) :
    readItems fuel depth (writeItems js ++ rest) =
      ((Node.ofJsonItems js, true), some rest) := by
  cases js with
  | nil => exact absurd rfl filled
  | cons j js =>
    obtain ⟨first, others⟩ := List.append_eq_nil_iff.mp whole
    obtain ⟨here, there⟩ := List.forall_mem_cons.mp within
    have long := j.write_length_pos
    rw [writeItems_cons, List.length_append] at enough
    obtain ⟨fuel, rfl⟩ : ∃ f, fuel = f + 1 := ⟨fuel - 1, by omega⟩
    rw [writeItems_cons, List.append_assoc]
    cases js with
    | nil =>
      have mark : (afterItem []).length = 1 := rfl
      exact readItems_last
        (readValue_write j here first shallow (by omega) (goesOn_afterItem [] rest)) rfl
    | cons k ks =>
      have mark : (afterItem (k :: ks)).length = (writeItems (k :: ks)).length + 1 := rfl
      exact readItems_more
        (readValue_write j here first shallow (by omega) (goesOn_afterItem (k :: ks) rest))
        (readItems_write (k :: ks) (List.cons_ne_nil _ _) there others shallow (by omega) rest)

theorem readMembers_write (ms : List (String × Json)) (filled : ms ≠ []) {room : Nat}
    (within : ∀ m ∈ ms, (Node.ofJson m.2).Within room) (whole : floatsOfMembers ms = [])
    {fuel depth : Nat} (shallow : depth + room ≤ depthLimit)
    (enough : (writeMembers ms).length ≤ fuel) (rest : List Char) :
    readMembers fuel depth (writeMembers ms ++ rest) =
      ((Node.ofJsonMembers ms, true), some rest) := by
  cases ms with
  | nil => exact absurd rfl filled
  | cons m ms =>
    obtain ⟨key, j⟩ := m
    obtain ⟨first, others⟩ := List.append_eq_nil_iff.mp whole
    obtain ⟨here, there⟩ := List.forall_mem_cons.mp within
    have long := j.write_length_pos
    rw [writeMembers_cons, List.length_append, List.length_append, List.length_cons] at enough
    obtain ⟨fuel, rfl⟩ : ∃ f, fuel = f + 1 := ⟨fuel - 1, by omega⟩
    rw [writeMembers_cons, List.append_assoc, List.append_assoc, List.cons_append]
    cases ms with
    | nil =>
      have mark : (afterMember []).length = 1 := rfl
      exact readMembers_last
        (readValue_write j here first shallow (by omega) (goesOn_afterMember [] rest)) rfl
    | cons k ks =>
      have mark : (afterMember (k :: ks)).length = (writeMembers (k :: ks)).length + 1 := rfl
      exact readMembers_more
        (readValue_write j here first shallow (by omega) (goesOn_afterMember (k :: ks) rest))
        (readMembers_write (k :: ks) (List.cons_ne_nil _ _) there others shallow (by omega) rest)
end

/-- The text of a value is read as this value and nothing after it. -/
theorem readText_toText {j : Json} (within : (Node.ofJson j).Within depthLimit)
    (whole : j.floats = []) : readText j.toText = (Node.ofJson j, true) := by
  have read : readValue (2 * j.write.length + 2) 0 (j.write ++ []) = (Node.ofJson j, some []) :=
    readValue_write j within whole (by omega) (by omega) (ends_nil goesOn)
  rw [List.append_nil] at read
  rw [readText, toText, String.toList_ofList]
  simp [read]

/-! ### Blanks -/

theorem isSpace_of_mem_newLine {indent : Nat} {c : Char} (h : c ∈ newLine indent) :
    isSpace c = true := by
  rcases List.mem_cons.mp h with rfl | h
  · rfl
  · rw [List.eq_of_mem_replicate h]
    rfl

theorem skipSpace_newLine (indent : Nat) (cs : List Char) :
    skipSpace (newLine indent ++ cs) = skipSpace cs := by
  rw [skipSpace, List.dropWhile_append_of_pos fun c h => isSpace_of_mem_newLine h]
  rfl

theorem skipSpace_skipSpace (cs : List Char) : skipSpace (skipSpace cs) = skipSpace cs :=
  List.dropWhile_idempotent isSpace cs

theorem readValue_skipSpace (cs : List Char) :
    readValue fuel depth (skipSpace cs) = readValue fuel depth cs := by
  cases fuel with
  | zero => rfl
  | succ fuel => rw [readValue, readValue, skipSpace_skipSpace]

/-- The space after a colon does not matter. -/
theorem readValue_space (cs : List Char) :
    readValue fuel depth (' ' :: cs) = readValue fuel depth cs := by
  rw [← readValue_skipSpace, ← readValue_skipSpace cs]
  rfl

theorem readItems_skipSpace (cs : List Char) :
    readItems fuel depth (skipSpace cs) = readItems fuel depth cs := by
  cases fuel with
  | zero => rfl
  | succ fuel => rw [readItems, readItems, readValue_skipSpace]

theorem readMembers_skipSpace (cs : List Char) :
    readMembers fuel depth (skipSpace cs) = readMembers fuel depth cs := by
  cases fuel with
  | zero => rfl
  | succ fuel => rw [readMembers, readMembers, skipSpace_skipSpace]

theorem goesOn_newLine (indent : Nat) (cs : List Char) : Ends goesOn (newLine indent ++ cs) :=
  ends_cons rfl _

/-! ### Containers in the indented text -/

/-- What stands after an item, where the text goes on behind the last one. -/
def behindItem (indent : Nat) (tail : List Char) : List Json → List Char
  | [] => tail
  | js => ',' :: writeItemsIndented indent js ++ tail

theorem writeItemsIndented_append (indent : Nat) (j : Json) (js : List Json) (tail : List Char) :
    writeItemsIndented indent (j :: js) ++ tail =
      newLine indent ++ (j.writeIndented indent ++ behindItem indent tail js) := by
  cases js <;> simp [writeItemsIndented, behindItem]

/-- What stands after a member, where the text goes on behind the last one. -/
def behindMember (indent : Nat) (tail : List Char) : List (String × Json) → List Char
  | [] => tail
  | ms => ',' :: writeMembersIndented indent ms ++ tail

theorem writeMembersIndented_append (indent : Nat) (key : String) (j : Json)
    (ms : List (String × Json)) (tail : List Char) :
    writeMembersIndented indent ((key, j) :: ms) ++ tail =
      newLine indent ++
        (writeString key ++ ':' :: ' ' :: (j.writeIndented indent ++ behindMember indent tail ms)) := by
  cases ms <;> simp [writeMembersIndented, behindMember]

theorem writeIndented_arr (indent : Nat) (j : Json) (js : List Json) :
    (arr (j :: js)).writeIndented indent =
      '[' :: (writeItemsIndented (indent + 1) (j :: js) ++ (newLine indent ++ [']'])) := by
  simp [writeIndented]

theorem writeIndented_obj (indent : Nat) (m : String × Json) (ms : List (String × Json)) :
    (obj (m :: ms)).writeIndented indent =
      '\x7b' :: (writeMembersIndented (indent + 1) (m :: ms) ++ (newLine indent ++ ['\x7d'])) := by
  simp [writeIndented]

theorem writeIndented_eq_cons (indent : Nat) (j : Json) :
    ∃ c rest, j.writeIndented indent = c :: rest ∧ shapeOf c = j.shape := by
  cases j with
  | arr items =>
    cases items with
    | nil => exact ⟨'[', _, rfl, rfl⟩
    | cons j js => exact ⟨'[', _, rfl, rfl⟩
  | obj ms =>
    cases ms with
    | nil => exact ⟨'\x7b', _, rfl, rfl⟩
    | cons m ms => exact ⟨'\x7b', _, rfl, rfl⟩
  | _ =>
    rw [writeIndented]
    · exact write_eq_cons _
    all_goals nofun

/-- An item begins with no blank and is not the end of its array. -/
theorem skipSpace_writeItemsIndented_ne (indent : Nat) (j : Json) (js : List Json)
    (tail r : List Char) : skipSpace (writeItemsIndented indent (j :: js) ++ tail) ≠ ']' :: r := by
  obtain ⟨c, cs, text, shape⟩ := j.writeIndented_eq_cons indent
  have visible : shapeOf c ≠ .other := shape ▸ j.shape_ne_other
  rw [writeItemsIndented_append, skipSpace_newLine, text, List.cons_append,
    skipSpace_of_shape visible]
  intro same
  obtain ⟨rfl, -⟩ := List.cons_eq_cons.mp same
  exact visible rfl

theorem skipSpace_writeMembersIndented_ne (indent : Nat) (key : String) (j : Json)
    (ms : List (String × Json)) (tail r : List Char) :
    skipSpace (writeMembersIndented indent ((key, j) :: ms) ++ tail) ≠ '\x7d' :: r := by
  rw [writeMembersIndented_append, skipSpace_newLine, skipSpace_key]
  nofun

/-- Blanks after the bracket do not matter. -/
theorem readValue_array_skipSpace (cs : List Char) :
    readValue fuel depth ('[' :: skipSpace cs) = readValue fuel depth ('[' :: cs) := by
  cases fuel with
  | zero => rfl
  | succ fuel =>
    have here (cs : List Char) : skipSpace ('[' :: cs) = '[' :: cs := rfl
    rw [readValue, readValue, here, here]
    simp only [Char.reduceEq, if_false, if_true, skipSpace_skipSpace]

theorem readValue_object_skipSpace (cs : List Char) :
    readValue fuel depth ('\x7b' :: skipSpace cs) = readValue fuel depth ('\x7b' :: cs) := by
  cases fuel with
  | zero => rfl
  | succ fuel =>
    have here (cs : List Char) : skipSpace ('\x7b' :: cs) = '\x7b' :: cs := rfl
    rw [readValue, readValue, here, here]
    simp only [Char.reduceEq, if_false, if_true, skipSpace_skipSpace]

theorem writeIndented_length_pos (indent : Nat) (j : Json) : 0 < (j.writeIndented indent).length := by
  obtain ⟨c, cs, text, -⟩ := j.writeIndented_eq_cons indent
  rw [text]
  exact Nat.succ_pos _

theorem newLine_length_pos (indent : Nat) : 0 < (newLine indent).length := Nat.succ_pos _

mutual
/-- A value is read from its indented text, whatever follows it that does not go on with a number. -/
theorem readValue_writeIndented (j : Json) {room : Nat} (within : (Node.ofJson j).Within room)
    (whole : j.floats = []) {fuel depth : Nat} (shallow : depth + room ≤ depthLimit) (indent : Nat)
    (enough : (j.writeIndented indent).length ≤ fuel) {rest : List Char}
    (ends : Ends goesOn rest) :
    readValue fuel depth (j.writeIndented indent ++ rest) = (Node.ofJson j, some rest) := by
  have long := j.writeIndented_length_pos indent
  obtain ⟨fuel, rfl⟩ : ∃ f, fuel = f + 1 := ⟨fuel - 1, by omega⟩
  cases j with
  | arr items =>
    cases items with
    | nil => exact readValue_write (.arr []) within whole shallow enough ends
    | cons j js =>
      obtain ⟨left, inner⟩ := Node.within_ofJson_arr_iff.mp within
      have here : depth < depthLimit := by omega
      have inside : depth + 1 + (room - 1) ≤ depthLimit := by omega
      rw [writeIndented_arr, List.length_cons, List.length_append] at enough
      have items := readItems_writeIndented (j :: js) (List.cons_ne_nil _ _) inner whole inside
        (indent + 1) (show _ ≤ fuel by omega) indent rest
      rw [writeIndented_arr, List.cons_append, List.append_assoc, List.append_assoc,
        List.singleton_append, ← readValue_array_skipSpace, readValue_array (skipSpace_skipSpace _)
        (skipSpace_writeItemsIndented_ne _ _ _ _), readItems_skipSpace, items, atDepth, if_pos here]
      rfl
  | obj ms =>
    cases ms with
    | nil => exact readValue_write (.obj []) within whole shallow enough ends
    | cons m ms =>
      obtain ⟨left, inner⟩ := Node.within_ofJson_obj_iff.mp within
      have here : depth < depthLimit := by omega
      have inside : depth + 1 + (room - 1) ≤ depthLimit := by omega
      rw [writeIndented_obj, List.length_cons, List.length_append] at enough
      have members := readMembers_writeIndented (m :: ms) (List.cons_ne_nil _ _) inner whole inside
        (indent + 1) (show _ ≤ fuel by omega) indent rest
      rw [writeIndented_obj, List.cons_append, List.append_assoc, List.append_assoc,
        List.singleton_append, ← readValue_object_skipSpace,
        readValue_object (skipSpace_skipSpace _) (skipSpace_writeMembersIndented_ne _ _ _ _ _),
        readMembers_skipSpace, members, atDepth, if_pos here]
      rfl
  | _ =>
    rw [writeIndented] at enough ⊢
    · exact readValue_write _ within whole shallow enough ends
    all_goals nofun

theorem readItems_writeIndented (js : List Json) (filled : js ≠ []) {room : Nat}
    (within : ∀ k ∈ js, (Node.ofJson k).Within room) (whole : floatsOfItems js = [])
    {fuel depth : Nat} (shallow : depth + room ≤ depthLimit) (indent : Nat)
    (enough : (writeItemsIndented indent js).length ≤ fuel) (outer : Nat) (rest : List Char) :
    readItems fuel depth (writeItemsIndented indent js ++ (newLine outer ++ ']' :: rest)) =
      ((Node.ofJsonItems js, true), some rest) := by
  cases js with
  | nil => exact absurd rfl filled
  | cons j js =>
    obtain ⟨first, others⟩ := List.append_eq_nil_iff.mp whole
    obtain ⟨here, there⟩ := List.forall_mem_cons.mp within
    have long := j.writeIndented_length_pos indent
    rw [← List.append_nil (writeItemsIndented _ _), writeItemsIndented_append,
      List.length_append, List.length_append] at enough
    obtain ⟨fuel, rfl⟩ : ∃ f, fuel = f + 1 := ⟨fuel - 1, by omega⟩
    have line := newLine_length_pos indent
    rw [writeItemsIndented_append, ← readItems_skipSpace, skipSpace_newLine, readItems_skipSpace]
    cases js with
    | nil =>
      exact readItems_last
        (readValue_writeIndented j here first shallow indent (by omega) (goesOn_newLine outer _))
        (skipSpace_newLine outer _)
    | cons k ks =>
      have mark : (behindItem indent [] (k :: ks)).length =
          (writeItemsIndented indent (k :: ks)).length + 1 := by simp [behindItem]
      exact readItems_more
        (readValue_writeIndented j here first shallow indent (by omega) (ends_cons rfl _))
        (readItems_writeIndented (k :: ks) (List.cons_ne_nil _ _) there others shallow indent
          (by omega) outer rest)

theorem readMembers_writeIndented (ms : List (String × Json)) (filled : ms ≠ []) {room : Nat}
    (within : ∀ m ∈ ms, (Node.ofJson m.2).Within room) (whole : floatsOfMembers ms = [])
    {fuel depth : Nat} (shallow : depth + room ≤ depthLimit) (indent : Nat)
    (enough : (writeMembersIndented indent ms).length ≤ fuel) (outer : Nat) (rest : List Char) :
    readMembers fuel depth (writeMembersIndented indent ms ++ (newLine outer ++ '\x7d' :: rest)) =
      ((Node.ofJsonMembers ms, true), some rest) := by
  cases ms with
  | nil => exact absurd rfl filled
  | cons m ms =>
    obtain ⟨key, j⟩ := m
    obtain ⟨first, others⟩ := List.append_eq_nil_iff.mp whole
    obtain ⟨here, there⟩ := List.forall_mem_cons.mp within
    have long := j.writeIndented_length_pos indent
    rw [← List.append_nil (writeMembersIndented _ _), writeMembersIndented_append,
      List.length_append, List.length_append, List.length_cons, List.length_cons,
      List.length_append] at enough
    obtain ⟨fuel, rfl⟩ : ∃ f, fuel = f + 1 := ⟨fuel - 1, by omega⟩
    rw [writeMembersIndented_append, ← readMembers_skipSpace, skipSpace_newLine,
      readMembers_skipSpace]
    cases ms with
    | nil =>
      exact readMembers_last ((readValue_space _).trans
        (readValue_writeIndented j here first shallow indent (by omega) (goesOn_newLine outer _)))
        (skipSpace_newLine outer _)
    | cons k ks =>
      have mark : (behindMember indent [] (k :: ks)).length =
          (writeMembersIndented indent (k :: ks)).length + 1 := by simp [behindMember]
      exact readMembers_more
        ((readValue_space _).trans
          (readValue_writeIndented j here first shallow indent (by omega) (ends_cons rfl _)))
        (readMembers_writeIndented (k :: ks) (List.cons_ne_nil _ _) there others shallow indent
          (by omega) outer rest)
end

/-- The indented text of a value is read as this value and nothing after it. -/
theorem readText_toIndentedText {j : Json} (within : (Node.ofJson j).Within depthLimit)
    (whole : j.floats = []) : readText j.toIndentedText = (Node.ofJson j, true) := by
  have read : readValue (2 * (j.writeIndented 0).length + 2) 0 (j.writeIndented 0 ++ []) =
      (Node.ofJson j, some []) :=
    readValue_writeIndented j within whole (by omega) 0 (by omega) (ends_nil goesOn)
  rw [List.append_nil] at read
  rw [readText, toIndentedText, String.toList_ofList]
  simp [read]

/-- What a value stands for is decoded from its indented text. -/
theorem decodeText_toIndentedText {α : Type} {d : Decoder α} {j : Json} {a : α}
    (within : (Node.ofJson j).Within depthLimit) (whole : j.floats = [])
    (decoded : d (.ofJson j) = .ok a) : decodeText d j.toIndentedText = .ok a := by
  rw [decodeText, readText_toIndentedText within whole]
  simp only [decoded]
  rfl

/-! ### What was read -/

/-- A container that can be read leaves less room for its parts. -/
theorem within_atDepth {n : Node} (container : depth < depthLimit → n.Within (depthLimit - depth)) :
    (atDepth depth n).Within (depthLimit - depth) := by
  rw [atDepth]
  split
  · exact container ‹_›
  · trivial

theorem within_number (t : NumberText) (room : Nat) : (Node.number t.value?).Within room := by
  rcases value : t.value? with _ | (n | x)
  · trivial
  · exact isWord_of_value? value
  · trivial

theorem readInvariant_within : ReadInvariant fun depth n => n.Within (depthLimit - depth) where
  fault _ := trivial
  null _ := trivial
  bool _ _ := trivial
  string _ _ := trivial
  number _ t := within_number t _
  array _ _ _ parts := within_atDepth fun here =>
    Node.within_array_iff.mpr ⟨Nat.sub_pos_of_lt here, parts⟩
  object _ _ _ parts := within_atDepth fun here =>
    Node.within_object_iff.mpr ⟨Nat.sub_pos_of_lt here, parts⟩

theorem within_readText (s : String) : (readText s).1.Within depthLimit :=
  readInvariant_within.readText s

end TrafficTrace.Json
