/-! Blank characters (the `White_Space` property) and trimming of a text at both ends. -/
namespace TrafficTrace.Text

/-- The characters with the property `White_Space`. -/
def isBlank (c : Char) : Bool :=
  let n := c.toNat
  (9 ≤ n && n ≤ 13) || n == 0x20 || n == 0x85 || n == 0xA0 || n == 0x1680 ||
    (0x2000 ≤ n && n ≤ 0x200A) || n == 0x2028 || n == 0x2029 || n == 0x202F || n == 0x205F ||
    n == 0x3000

/-- Drops the characters that satisfy `p` from the end. -/
def dropEndWhile (p : Char → Bool) (cs : List Char) : List Char :=
  (cs.reverse.dropWhile p).reverse

def trimChars (cs : List Char) : List Char := dropEndWhile isBlank (cs.dropWhile isBlank)

/-- A text without the blanks at its two ends. -/
def trim (s : String) : String := String.ofList (trimChars s.toList)

def isAllBlank (s : String) : Bool := s.toList.all isBlank

example : trim "\t a b\u3000" = "a b" := by decide +kernel

/-- Splits at the first `sep`. -/
def splitFirst (sep : Char) : List Char → Option (List Char × List Char)
  | [] => none
  | c :: cs => if c = sep then some ([], cs) else (splitFirst sep cs).map fun (a, b) => (c :: a, b)

/-- Splits at the last `sep`. -/
def splitLast (sep : Char) (cs : List Char) : Option (List Char × List Char) :=
  (splitFirst sep cs.reverse).map fun (a, b) => (b.reverse, a.reverse)

theorem splitFirst_eq_some {sep : Char} {cs a b : List Char}
    (h : splitFirst sep cs = some (a, b)) : cs = a ++ sep :: b ∧ sep ∉ a := by
  induction cs generalizing a with
  | nil => simp [splitFirst] at h
  | cons c cs ih =>
    unfold splitFirst at h
    split at h
    · rename_i hc
      simp only [Option.some.injEq, Prod.mk.injEq] at h
      obtain ⟨rfl, rfl⟩ := h
      simp [hc]
    · rename_i hc
      simp only [Option.map_eq_some_iff, Prod.mk.injEq] at h
      obtain ⟨⟨a', b'⟩, h', rfl, rfl⟩ := h
      obtain ⟨rfl, hs⟩ := ih h'
      simp [hs, Ne.symm hc]

theorem splitFirst_append {sep : Char} {w : List Char} (absent : sep ∉ w) (rest : List Char) :
    splitFirst sep (w ++ sep :: rest) = some (w, rest) := by
  induction w with
  | nil => rw [List.nil_append, splitFirst, if_pos rfl]
  | cons c w ih =>
    obtain ⟨other, absent⟩ := not_or.mp (mt List.mem_cons.mpr absent)
    rw [List.cons_append, splitFirst, if_neg (Ne.symm other), ih absent]
    rfl

theorem splitFirst_eq_none {sep : Char} {cs : List Char} (absent : sep ∉ cs) :
    splitFirst sep cs = none := by
  cases h : splitFirst sep cs with
  | none => rfl
  | some p =>
    obtain ⟨same, -⟩ := splitFirst_eq_some (a := p.1) (b := p.2) h
    exact absurd (same ▸ List.mem_append_right _ List.mem_cons_self) absent

theorem splitLast_eq_some {sep : Char} {cs a b : List Char}
    (h : splitLast sep cs = some (a, b)) : cs = a ++ sep :: b ∧ sep ∉ b := by
  obtain ⟨⟨x, y⟩, split, same⟩ := Option.map_eq_some_iff.mp h
  obtain ⟨rfl, rfl⟩ := Prod.mk.inj same
  obtain ⟨parts, absent⟩ := splitFirst_eq_some split
  have text : cs = y.reverse ++ sep :: x.reverse := by
    rw [← List.reverse_reverse cs, parts]
    simp
  exact ⟨text, by simpa using absent⟩

theorem splitLast_append {sep : Char} {w : List Char} (absent : sep ∉ w) (front : List Char) :
    splitLast sep (front ++ sep :: w) = some (front, w) := by
  have absent : sep ∉ w.reverse := by simpa using absent
  have split := splitFirst_append absent front.reverse
  simp [splitLast, split]

theorem splitLast_eq_none {sep : Char} {cs : List Char} (absent : sep ∉ cs) :
    splitLast sep cs = none := by
  rw [splitLast, splitFirst_eq_none (by simpa using absent), Option.map_none]

/-- The pieces between the characters that satisfy `p`. -/
def pieces (p : Char → Bool) : List Char → List (List Char)
  | [] => [[]]
  | c :: cs =>
    if p c then [] :: pieces p cs
    else match pieces p cs with
      | [] => [[c]]
      | w :: ws => (c :: w) :: ws

/-- Whether `needle` stands somewhere in `hay`. -/
def contains (needle hay : List Char) : Bool :=
  match hay with
  | [] => needle.isEmpty
  | _ :: rest => needle.isPrefixOf hay || contains needle rest

end TrafficTrace.Text
