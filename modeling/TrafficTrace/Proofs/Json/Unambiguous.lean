import TrafficTrace.Json.Reader
import TrafficTrace.Proofs.Number.Digits

/-!
# The text of a value tells where it ends

Texts of different values differ, whatever follows them, as long as no numeral goes on after a
number. A text holds no line end, so that values on lines of their own stay apart.
-/
namespace TrafficTrace.Json

open Number Text

/-! ### Strings -/

/-- The way from a character to the rest of a string. -/
theorem bind_eq_map (r : Option (List Unit16 × List Char)) (c : Char) :
    (do
      let (us, rest) ← r
      return (.char c :: us, rest)) = r.map fun p => (Unit16.char c :: p.1, p.2) := by
  cases r <;> rfl

/-- A character that is neither a quote nor a mark of an escape stands for itself. -/
theorem readUnits_cons {c : Char} (quote : c ≠ '"') (escape : c ≠ '\\') (large : 32 ≤ c.toNat)
    (rest : List Char) :
    readUnits (c :: rest) = (readUnits rest).map fun p => (.char c :: p.1, p.2) := by
  have small : ¬ c.toNat < 32 := Nat.not_lt.mpr large
  rw [← bind_eq_map, readUnits.eq_def]
  split
  case h_6 same =>
    obtain ⟨rfl, rfl⟩ := List.cons_eq_cons.mp same
    rw [if_neg small]
  all_goals simp_all

theorem readUnits_simple {e d : Char} (other : e ≠ 'u') (h : simpleEscape? e = some d)
    (rest : List Char) :
    readUnits ('\\' :: e :: rest) = (readUnits rest).map fun p => (.char d :: p.1, p.2) := by
  rw [← bind_eq_map, readUnits.eq_def]
  split
  case h_5 same =>
    cases same
    rw [h]
    rfl
  case h_6 unmarked same =>
    obtain ⟨rfl, rfl⟩ := List.cons_eq_cons.mp same
    exact absurd rfl (unmarked e rest rfl)
  all_goals simp_all

theorem readUnits_escapeChar (c : Char) (rest : List Char) :
    readUnits (escapeChar c ++ rest) =
      (readUnits rest).map fun p => (.char c :: p.1, p.2) := by
  unfold escapeChar
  split
  · subst_vars; exact readUnits_simple (by decide) rfl rest
  split
  · subst_vars; exact readUnits_simple (by decide) rfl rest
  split
  · subst_vars; exact readUnits_simple (by decide) rfl rest
  split
  · subst_vars; exact readUnits_simple (by decide) rfl rest
  split
  · subst_vars; exact readUnits_simple (by decide) rfl rest
  split
  · rename_i code
    obtain rfl : c = Char.ofNat 8 := by rw [← Char.ofNat_toNat c, code]
    exact readUnits_simple (by decide) rfl rest
  split
  · rename_i code
    obtain rfl : c = Char.ofNat 12 := by rw [← Char.ofNat_toNat c, code]
    exact readUnits_simple (by decide) rfl rest
  split
  · rename_i small
    have high := hexValue?_hexDigit (n := c.toNat / 16) (by omega)
    have low := hexValue?_hexDigit (n := c.toNat % 16) (by omega)
    have zero : hexValue? '0' = some 0 := rfl
    have code : ((0 * 16 + 0) * 16 + c.toNat / 16) * 16 + c.toNat % 16 = c.toNat := by omega
    have unit : Unit16.ofNat c.toNat = .char c := by
      rw [Unit16.ofNat, if_neg (by omega), if_neg (by omega), Char.ofNat_toNat]
    rw [← bind_eq_map, ← unit]
    simp only [List.cons_append, List.nil_append, readUnits, readHex4, zero, high, low,
      Option.bind_eq_bind, Option.bind_some, Option.pure_def, code]
  · exact readUnits_cons ‹_› ‹_› (by omega) rest

/-- What is written as a string is read back, up to its closing quote. -/
theorem readUnits_write (cs rest : List Char) :
    readUnits (cs.flatMap escapeChar ++ '"' :: rest) = some (cs.map .char, rest) := by
  induction cs with
  | nil => rfl
  | cons c cs ih =>
    rw [List.flatMap_cons, List.append_assoc, readUnits_escapeChar, ih]
    rfl

theorem writeString_append_inj {s t : String} {q r : List Char}
    (h : writeString s ++ q = writeString t ++ r) : s = t ∧ q = r := by
  have body :
      s.toList.flatMap escapeChar ++ '"' :: q = t.toList.flatMap escapeChar ++ '"' :: r := by
    simpa [writeString] using h
  have read := congrArg readUnits body
  rw [readUnits_write, readUnits_write] at read
  obtain ⟨units, rest⟩ := Prod.mk.injEq .. ▸ Option.some.inj read
  have char : Function.Injective Unit16.char := fun _ _ => Unit16.char.inj
  exact ⟨String.toList_inj.mp (List.map_injective_iff.mpr char units), rest⟩

/-! ### Numbers -/

theorem isNumeral_writeInt (n : Int) : ∀ c ∈ writeInt n, isNumeral c = true := by
  have digits {n : Nat} : ∀ c ∈ writeNat n, isNumeral c = true :=
    fun c hc => isNumeral_of_isDigit (isDigit_of_toDigits c hc)
  intro c hc
  rw [writeInt] at hc
  split at hc
  · rcases List.mem_cons.mp hc with rfl | hc
    · rfl
    · exact digits c hc
  · exact digits c hc

theorem writeNat_injective {m n : Nat} (h : writeNat m = writeNat n) : m = n := by
  have value := congrArg (fun ds => Nat.ofDigitChars 10 ds 0) h
  simpa [writeNat, Nat.ofDigitChars_ten_toDigits] using value

theorem writeInt_injective {m n : Int} (h : writeInt m = writeInt n) : m = n := by
  have unsigned (k : Nat) (rest : List Char) : writeNat k ≠ '-' :: rest := by
    intro same
    have digit := isDigit_of_toDigits '-' (same ▸ List.mem_cons_self : '-' ∈ writeNat k)
    exact absurd digit (by decide)
  rw [writeInt, writeInt] at h
  split at h <;> split at h
  · have := writeNat_injective (List.cons_eq_cons.mp h).2
    omega
  · exact absurd h.symm (unsigned _ _)
  · exact absurd h (unsigned _ _)
  · have := writeNat_injective h
    omega

/-- An integer is never written like a number with a point or an exponent. -/
theorem writeInt_ne_write (n : Int) (x : Binary64) : writeInt n ≠ x.write := by
  intro same
  obtain ⟨c, hc, mark⟩ := x.exists_mark
  have unmarked {c : Char} (digit : c.isDigit = true) : ¬ (c = '.' ∨ c = 'e') := by
    rintro (rfl | rfl) <;> exact absurd digit (by decide)
  rw [← same, writeInt] at hc
  split at hc
  · rcases List.mem_cons.mp hc with rfl | hc
    · exact absurd mark (by decide)
    · exact unmarked (isDigit_of_toDigits c hc) mark
  · exact unmarked (isDigit_of_toDigits c hc) mark

/-! ### Values -/

mutual
/-- The numbers with a point or an exponent in a value. -/
def floats : Json → List Binary64
  | .float x => [x]
  | .arr items => floatsOfItems items
  | .obj ms => floatsOfMembers ms
  | _ => []

def floatsOfItems : List Json → List Binary64
  | [] => []
  | j :: js => floats j ++ floatsOfItems js

def floatsOfMembers : List (String × Json) → List Binary64
  | [] => []
  | (_, j) :: ms => floats j ++ floatsOfMembers ms
end

/-- All numbers of a value have the form in which they are read and computed. -/
def IsCanonical (j : Json) : Prop := ∀ x ∈ j.floats, x.IsCanonical

instance (j : Json) : Decidable j.IsCanonical := inferInstanceAs (Decidable (∀ x ∈ _, _))

/-- What the first character of a text says about the value. -/
inductive Shape where
  | null
  | yes
  | no
  | number
  | string
  | array
  | object
  | other
deriving DecidableEq

def shapeOf (c : Char) : Shape :=
  if c = 'n' then .null
  else if c = 't' then .yes
  else if c = 'f' then .no
  else if c = '"' then .string
  else if c = '[' then .array
  else if c = '\x7b' then .object
  else if c = '-' || c.isDigit then .number
  else .other

def shape : Json → Shape
  | .null => .null
  | .bool true => .yes
  | .bool false => .no
  | .int _ | .float _ => .number
  | .str _ => .string
  | .arr _ => .array
  | .obj _ => .object

theorem shapeOf_digit {c : Char} (h : c.isDigit = true) : shapeOf c = .number := by
  have other (d : Char) (hd : d.isDigit = false) : c ≠ d := by
    rintro rfl
    rw [h] at hd
    cases hd
  rw [shapeOf, if_neg (other _ rfl), if_neg (other _ rfl), if_neg (other _ rfl),
    if_neg (other _ rfl), if_neg (other _ rfl), if_neg (other _ rfl), if_pos (by simp [h])]

theorem write_eq_cons (j : Json) : ∃ c rest, j.write = c :: rest ∧ shapeOf c = j.shape := by
  have digits (n : Nat) : ∃ c rest, writeNat n = c :: rest ∧ shapeOf c = .number := by
    obtain ⟨c, rest, text⟩ := List.exists_cons_of_ne_nil
      (Nat.toDigits_ne_nil : Nat.toDigits 10 n ≠ [])
    exact ⟨c, rest, text, shapeOf_digit (isDigit_of_toDigits c (text ▸ List.mem_cons_self))⟩
  cases j with
  | null => exact ⟨'n', _, by rw [write], rfl⟩
  | bool b => cases b <;> exact ⟨_, _, by rw [write], rfl⟩
  | int n =>
    rw [write, writeInt]
    split
    · exact ⟨'-', _, rfl, rfl⟩
    · exact digits _
  | float x =>
    rw [write, Binary64.write]
    split
    · exact ⟨'-', _, rfl, rfl⟩
    · obtain ⟨c, rest, text, digit⟩ := Number.write_eq_cons .document x.shortest
      exact ⟨c, rest, text, shapeOf_digit digit⟩
  | str s => exact ⟨'"', _, by rw [write, writeString]; rfl, rfl⟩
  | arr items => exact ⟨'[', _, by rw [write], rfl⟩
  | obj ms => exact ⟨'\x7b', _, by rw [write], rfl⟩

/-- Two values whose texts begin the same text have the same shape. -/
theorem shape_eq {j k : Json} {r s : List Char} (h : j.write ++ r = k.write ++ s) :
    j.shape = k.shape := by
  obtain ⟨c, rest, text, shape⟩ := j.write_eq_cons
  obtain ⟨d, rest', text', shape'⟩ := k.write_eq_cons
  rw [text, text', List.cons_append, List.cons_append] at h
  obtain ⟨rfl, -⟩ := List.cons_eq_cons.mp h
  rw [← shape, shape']

/-- No value begins with a mark that stands after values. -/
theorem write_append_ne {c : Char} (mark : shapeOf c = .other) (j : Json) (r s : List Char) :
    j.write ++ r ≠ c :: s := by
  obtain ⟨d, rest, text, shape⟩ := j.write_eq_cons
  rw [text, List.cons_append]
  intro same
  obtain ⟨rfl, -⟩ := List.cons_eq_cons.mp same
  rw [mark] at shape
  cases j with
  | bool b => cases b <;> cases shape
  | _ => cases shape

/-- What follows an item of an array. -/
def afterItem : List Json → List Char
  | [] => [']']
  | js => ',' :: writeItems js

theorem writeItems_cons (j : Json) (js : List Json) :
    writeItems (j :: js) = j.write ++ afterItem js := by
  cases js <;> simp [writeItems, afterItem]

/-- What follows a member of an object. -/
def afterMember : List (String × Json) → List Char
  | [] => ['\x7d']
  | ms => ',' :: writeMembers ms

theorem writeMembers_cons (k : String) (j : Json) (ms : List (String × Json)) :
    writeMembers ((k, j) :: ms) = writeString k ++ ':' :: j.write ++ afterMember ms := by
  cases ms <;> simp [writeMembers, afterMember]

theorem ends_afterItem (js : List Json) (r : List Char) : Ends isNumeral (afterItem js ++ r) := by
  cases js <;> exact ends_cons rfl _

theorem ends_afterMember (ms : List (String × Json)) (r : List Char) :
    Ends isNumeral (afterMember ms ++ r) := by
  cases ms <;> exact ends_cons rfl _

/-- Numbers end where no numeral goes on. -/
theorem number_append_inj {j k : Json} (hj : j.IsCanonical) (hk : k.IsCanonical)
    (number : j.shape = .number) (number' : k.shape = .number) {r s : List Char}
    (hr : Ends isNumeral r) (hs : Ends isNumeral s) (h : j.write ++ r = k.write ++ s) :
    j = k ∧ r = s := by
  have numerals {j : Json} (number : j.shape = .number) : ∀ c ∈ j.write, isNumeral c = true := by
    cases j with
    | int n => rw [write]; exact isNumeral_writeInt n
    | float x => rw [write]; exact x.isNumeral_write
    | bool b => cases b <;> cases number
    | _ => cases number
  obtain ⟨same, rest⟩ := append_inj_of_ends (numerals number) (numerals number') hr hs h
  refine ⟨?_, rest⟩
  cases j with
  | int n =>
    cases k with
    | int m => rw [write, write] at same; rw [writeInt_injective same]
    | float x => rw [write, write] at same; exact absurd same (writeInt_ne_write n x)
    | bool b => cases b <;> cases number'
    | _ => cases number'
  | float x =>
    cases k with
    | int n => rw [write, write] at same; exact absurd same.symm (writeInt_ne_write n x)
    | float y =>
      rw [write, write] at same
      rw [Binary64.write_injective (hj x (by simp [floats])) (hk y (by simp [floats])) same]
    | bool b => cases b <;> cases number'
    | _ => cases number'
  | bool b => cases b <;> cases number
  | _ => cases number

mutual
/-- The text of a value tells which value it is and where it ends. -/
theorem write_append_inj (j k : Json) (hj : ∀ x ∈ j.floats, x.IsCanonical)
    (hk : ∀ x ∈ k.floats, x.IsCanonical) {r s : List Char} (hr : Ends isNumeral r)
    (hs : Ends isNumeral s) (h : j.write ++ r = k.write ++ s) : j = k ∧ r = s := by
  have shapes := shape_eq h
  cases j with
  | null =>
    cases k with
    | null => exact ⟨rfl, List.append_cancel_left h⟩
    | bool b => cases b <;> cases shapes
    | _ => cases shapes
  | bool b =>
    cases k with
    | bool b' =>
      obtain rfl : b = b' := by cases b <;> cases b' <;> first | rfl | cases shapes
      exact ⟨rfl, List.append_cancel_left h⟩
    | _ => cases b <;> cases shapes
  | int n => exact number_append_inj hj hk rfl shapes.symm hr hs h
  | float x => exact number_append_inj hj hk rfl shapes.symm hr hs h
  | str t =>
    cases k with
    | str t' =>
      rw [write, write] at h
      obtain ⟨rfl, rest⟩ := writeString_append_inj h
      exact ⟨rfl, rest⟩
    | bool b => cases b <;> cases shapes
    | _ => cases shapes
  | arr items =>
    cases k with
    | arr items' =>
      rw [write, write] at h
      obtain ⟨rfl, rest⟩ := writeItems_append_inj items items' hj hk (List.cons_eq_cons.mp h).2
      exact ⟨rfl, rest⟩
    | bool b => cases b <;> cases shapes
    | _ => cases shapes
  | obj ms =>
    cases k with
    | obj ms' =>
      rw [write, write] at h
      obtain ⟨rfl, rest⟩ := writeMembers_append_inj ms ms' hj hk (List.cons_eq_cons.mp h).2
      exact ⟨rfl, rest⟩
    | bool b => cases b <;> cases shapes
    | _ => cases shapes

theorem writeItems_append_inj (js ks : List Json) (hj : ∀ x ∈ floatsOfItems js, x.IsCanonical)
    (hk : ∀ x ∈ floatsOfItems ks, x.IsCanonical) {r s : List Char}
    (h : writeItems js ++ r = writeItems ks ++ s) : js = ks ∧ r = s := by
  cases js with
  | nil =>
    cases ks with
    | nil => exact ⟨rfl, List.append_cancel_left h⟩
    | cons k ks =>
      rw [writeItems_cons, List.append_assoc] at h
      exact absurd h.symm (write_append_ne rfl k _ _)
  | cons j js =>
    cases ks with
    | nil =>
      rw [writeItems_cons, List.append_assoc] at h
      exact absurd h (write_append_ne rfl j _ _)
    | cons k ks =>
      rw [writeItems_cons, writeItems_cons, List.append_assoc, List.append_assoc] at h
      obtain ⟨rfl, rest⟩ := write_append_inj j k
        (fun x hx => hj x (List.mem_append_left _ hx))
        (fun x hx => hk x (List.mem_append_left _ hx))
        (ends_afterItem js r) (ends_afterItem ks s) h
      have tail : js = ks ∧ r = s := by
        cases js with
        | nil =>
          cases ks with
          | nil => exact ⟨rfl, List.append_cancel_left rest⟩
          | cons k ks => cases (List.cons_eq_cons.mp rest).1
        | cons j' js =>
          cases ks with
          | nil => cases (List.cons_eq_cons.mp rest).1
          | cons k' ks =>
            exact writeItems_append_inj (j' :: js) (k' :: ks)
              (fun x hx => hj x (List.mem_append_right _ hx))
              (fun x hx => hk x (List.mem_append_right _ hx)) (List.cons_eq_cons.mp rest).2
      obtain ⟨rfl, rfl⟩ := tail
      exact ⟨rfl, rfl⟩

theorem writeMembers_append_inj (ms ns : List (String × Json))
    (hm : ∀ x ∈ floatsOfMembers ms, x.IsCanonical) (hn : ∀ x ∈ floatsOfMembers ns, x.IsCanonical)
    {r s : List Char} (h : writeMembers ms ++ r = writeMembers ns ++ s) : ms = ns ∧ r = s := by
  cases ms with
  | nil =>
    cases ns with
    | nil => exact ⟨rfl, List.append_cancel_left h⟩
    | cons n ns =>
      rw [writeMembers_cons] at h
      cases (List.cons_eq_cons.mp h).1
  | cons m ms =>
    cases ns with
    | nil =>
      rw [writeMembers_cons] at h
      cases (List.cons_eq_cons.mp h).1
    | cons n ns =>
      obtain ⟨key, j⟩ := m
      obtain ⟨key', k⟩ := n
      simp only [writeMembers_cons, List.append_assoc, List.cons_append] at h
      obtain ⟨rfl, value⟩ := writeString_append_inj h
      obtain ⟨rfl, rest⟩ := write_append_inj j k
        (fun x hx => hm x (List.mem_append_left _ hx))
        (fun x hx => hn x (List.mem_append_left _ hx))
        (ends_afterMember ms r) (ends_afterMember ns s) (List.cons_eq_cons.mp value).2
      have tail : ms = ns ∧ r = s := by
        cases ms with
        | nil =>
          cases ns with
          | nil => exact ⟨rfl, List.append_cancel_left rest⟩
          | cons n ns => cases (List.cons_eq_cons.mp rest).1
        | cons m ms =>
          cases ns with
          | nil => cases (List.cons_eq_cons.mp rest).1
          | cons n ns =>
            exact writeMembers_append_inj (m :: ms) (n :: ns)
              (fun x hx => hm x (List.mem_append_right _ hx))
              (fun x hx => hn x (List.mem_append_right _ hx)) (List.cons_eq_cons.mp rest).2
      obtain ⟨rfl, rfl⟩ := tail
      exact ⟨rfl, rfl⟩
end

theorem toText_injective {j k : Json} (hj : j.IsCanonical) (hk : k.IsCanonical)
    (h : j.toText = k.toText) : j = k := by
  have same : j.write = k.write := String.ofList_injective h
  refine (write_append_inj j k hj hk (ends_nil _) (ends_nil _) (r := []) (s := []) ?_).1
  rw [same]

/-! ### Lines -/

theorem hexDigit_ne_line {n : Nat} (h : n < 16) : hexDigit n ≠ '\n' := by
  revert n
  decide

theorem line_notMem_escapeChar (c : Char) : '\n' ∉ escapeChar c := by
  unfold escapeChar
  split
  · decide
  split
  · decide
  split
  · decide
  split
  · decide
  split
  · decide
  split
  · decide
  split
  · decide
  split
  · have high := hexDigit_ne_line (n := c.toNat / 16) (by omega)
    have low := hexDigit_ne_line (n := c.toNat % 16) (by omega)
    simp [high.symm, low.symm]
  · rename_i line _ _ _ _ _
    simpa using Ne.symm line

theorem line_notMem_writeString (s : String) : '\n' ∉ writeString s := by
  rw [writeString]
  simp only [List.cons_append, List.mem_cons, List.mem_append, List.mem_flatMap, List.mem_nil_iff,
    or_false, not_or, not_exists, not_and]
  exact ⟨by decide, fun c _ => line_notMem_escapeChar c, by decide⟩

mutual
/-- A text stands on one line. -/
theorem line_notMem_write (j : Json) : '\n' ∉ j.write := by
  cases j with
  | null => decide
  | bool b => cases b <;> decide
  | int n => exact fun h => absurd (isNumeral_writeInt n _ h) (by decide)
  | float x => exact fun h => absurd (x.isNumeral_write _ h) (by decide)
  | str s => exact line_notMem_writeString s
  | arr items =>
    rw [write, List.mem_cons, not_or]
    exact ⟨by decide, line_notMem_writeItems items⟩
  | obj ms =>
    rw [write, List.mem_cons, not_or]
    exact ⟨by decide, line_notMem_writeMembers ms⟩

theorem line_notMem_writeItems (js : List Json) : '\n' ∉ writeItems js := by
  cases js with
  | nil => decide
  | cons j js =>
    rw [writeItems_cons, List.mem_append, not_or]
    refine ⟨line_notMem_write j, ?_⟩
    cases js with
    | nil => decide
    | cons k ks =>
      rw [afterItem, List.mem_cons, not_or]
      · exact ⟨by decide, line_notMem_writeItems (k :: ks)⟩
      · exact List.cons_ne_nil _ _

theorem line_notMem_writeMembers (ms : List (String × Json)) : '\n' ∉ writeMembers ms := by
  cases ms with
  | nil => decide
  | cons m ms =>
    obtain ⟨key, j⟩ := m
    simp only [writeMembers_cons, List.mem_append, List.mem_cons, not_or]
    refine ⟨⟨line_notMem_writeString key, by decide, line_notMem_write j⟩, ?_⟩
    cases ms with
    | nil => decide
    | cons m ms =>
      rw [afterMember, List.mem_cons, not_or]
      · exact ⟨by decide, line_notMem_writeMembers (m :: ms)⟩
      · exact List.cons_ne_nil _ _
end

end TrafficTrace.Json
