import TrafficTrace.Proofs.Text.Framing
import TrafficTrace.Text.Blank
import TrafficTrace.Text.Lowercase

/-!
# What the case of an ASCII letter does not change

A function of characters that takes every capital ASCII letter for its small letter does not see
which of the two is written. The parts of lower case are such functions, and so is lower case as a
whole: around a sigma, too, a capital letter counts as much as a small one.
-/
namespace TrafficTrace.Text

/-- The small letter of a capital ASCII letter. -/
def asciiLowerChar (c : Char) : Char :=
  if 'A' ≤ c && c ≤ 'Z' then Char.ofNat (c.toNat + 32) else c

theorem asciiLower_eq_map (s : String) :
    asciiLower s = String.ofList (s.toList.map asciiLowerChar) := rfl

/-- The function does not tell a capital ASCII letter from its small letter. -/
def IgnoresCase {α : Type} (g : Char → α) : Prop := ∀ c, g (asciiLowerChar c) = g c

/-- There are 26 letters to look at. -/
theorem ignoresCase_of_letters {α : Type} {g : Char → α}
    (h : ∀ n < 26, g (Char.ofNat (97 + n)) = g (Char.ofNat (65 + n))) : IgnoresCase g := by
  have toNat_le {a b : Char} : a ≤ b ↔ a.toNat ≤ b.toNat := Iff.rfl
  intro c
  by_cases capital : 'A' ≤ c ∧ c ≤ 'Z'
  · have first : 65 ≤ c.toNat := toNat_le.mp capital.1
    have last : c.toNat ≤ 90 := toNat_le.mp capital.2
    have same := h (c.toNat - 65) (by omega)
    have small : 97 + (c.toNat - 65) = c.toNat + 32 := by omega
    have large : 65 + (c.toNat - 65) = c.toNat := by omega
    rw [small, large, Char.ofNat_toNat] at same
    rw [asciiLowerChar, if_pos (by simpa using capital), same]
  · rw [asciiLowerChar, if_neg (by simpa using capital)]

theorem ignoresCase_isBlank : IgnoresCase isBlank := ignoresCase_of_letters (by decide)

theorem ignoresCase_isCased : IgnoresCase isCased := ignoresCase_of_letters (by decide)

theorem ignoresCase_isCaseIgnorable : IgnoresCase isCaseIgnorable :=
  ignoresCase_of_letters (by decide)

theorem ignoresCase_lowerChar : IgnoresCase lowerChar := ignoresCase_of_letters (by decide)

/-- A character that is no ASCII letter is found in both. -/
theorem ignoresCase_eq (d : Char)
    (h : ∀ n < 26, Char.ofNat (97 + n) ≠ d ∧ Char.ofNat (65 + n) ≠ d) :
    IgnoresCase fun c => decide (c = d) :=
  ignoresCase_of_letters fun n hn => by simp [h n hn]

theorem IgnoresCase.mem_map_iff {d : Char} (h : IgnoresCase fun c => decide (c = d))
    (cs : List Char) : d ∈ cs.map asciiLowerChar ↔ d ∈ cs := by
  have same (c : Char) : asciiLowerChar c = d ↔ c = d := by simpa using h c
  simp [List.mem_map, same]

theorem IgnoresCase.dropWhile {p : Char → Bool} (h : IgnoresCase p) (cs : List Char) :
    (cs.map asciiLowerChar).dropWhile p = (cs.dropWhile p).map asciiLowerChar := by
  have same : p ∘ asciiLowerChar = p := funext h
  rw [List.dropWhile_map, same]

theorem IgnoresCase.ends_iff {p : Char → Bool} (h : IgnoresCase p) (cs : List Char) :
    Ends p (cs.map asciiLowerChar) ↔ Ends p cs := by
  cases cs with
  | nil => rfl
  | cons c cs => simp [Ends, h c]

theorem isFinalSigma_map (before after : List Char) :
    isFinalSigma (before.map asciiLowerChar) (after.map asciiLowerChar) =
      isFinalSigma before after := by
  rw [isFinalSigma, isFinalSigma, ignoresCase_isCaseIgnorable.dropWhile,
    ignoresCase_isCaseIgnorable.dropWhile]
  cases before.dropWhile isCaseIgnorable with
  | nil => rfl
  | cons c _ =>
    cases after.dropWhile isCaseIgnorable with
    | nil => simp [ignoresCase_isCased c]
    | cons d _ => simp [ignoresCase_isCased c, ignoresCase_isCased d]

theorem lowerChars_map (before cs : List Char) :
    lowerChars (before.map asciiLowerChar) (cs.map asciiLowerChar) = lowerChars before cs := by
  induction cs generalizing before with
  | nil => rfl
  | cons c cs ih =>
    have sigma : asciiLowerChar c = 'Σ' ↔ c = 'Σ' := by
      simpa using ignoresCase_eq 'Σ' (by decide) c
    have rest := ih (c :: before)
    rw [List.map_cons] at rest
    rw [List.map_cons, lowerChars, lowerChars, rest, isFinalSigma_map, ignoresCase_lowerChar c]
    simp only [sigma]

theorem lowerChars_of_ascii {cs : List Char} (ascii : ∀ c ∈ cs, c.toNat < 128)
    (before : List Char) : lowerChars before cs = cs.map asciiLowerChar := by
  induction cs generalizing before with
  | nil => rfl
  | cons c cs ih =>
    obtain ⟨first, rest⟩ := List.forall_mem_cons.mp ascii
    have sigma : c ≠ 'Σ' := by
      rintro rfl
      exact absurd first (by decide)
    have small : lowerChar c = [asciiLowerChar c] := by
      rw [lowerChar, if_pos first]
      rfl
    rw [lowerChars, if_neg sigma, small, ih rest]
    rfl

/-- In ASCII no letter depends on those around it. -/
theorem lower_of_ascii {cs : List Char} (ascii : ∀ c ∈ cs, c.toNat < 128) :
    lower (String.ofList cs) = String.ofList (cs.map asciiLowerChar) := by
  rw [lower, String.toList_ofList, lowerChars_of_ascii ascii]

/-- Lower case does not depend on the case of the ASCII letters, nor does the form of a sigma. -/
theorem lower_asciiLower (s : String) : lower (asciiLower s) = lower s := by
  have same := lowerChars_map [] s.toList
  rw [lower, lower, asciiLower_eq_map, String.toList_ofList]
  exact congrArg String.ofList same

end TrafficTrace.Text
