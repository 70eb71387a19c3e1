import TrafficTrace.Json.Reader
import TrafficTrace.Proofs.Document.Extent
import TrafficTrace.Proofs.Json.Unambiguous

/-!
# Integers in text

An integer that is read has 64 bits, and an integer of 64 bits is read from its own text.
-/
namespace TrafficTrace.Json

open Document Number Text

/-! ### Digits -/

theorem isDigit_eq (c : Char) : isDigit c = c.isDigit := rfl

/-- The number that digits make after those of another. -/
def valueAfter (acc : Nat) (ds : List Nat) : Nat := ds.foldl (fun n d => n * 10 + d) acc

theorem le_valueAfter (acc : Nat) (ds : List Nat) : acc ≤ valueAfter acc ds := by
  induction ds generalizing acc with
  | nil => exact Nat.le_refl acc
  | cons d ds ih =>
    have rest : acc * 10 + d ≤ valueAfter acc (d :: ds) := ih (acc * 10 + d)
    omega

/-- Digits whose number has 64 bits are all collected. -/
theorem collect_of_lt (acc : Nat) (ds : List Nat) (fits : valueAfter acc ds < wordLimit) :
    collect acc ds = (valueAfter acc ds, []) := by
  induction ds generalizing acc with
  | nil => rfl
  | cons d ds ih =>
    have here : acc * 10 + d < wordLimit := Nat.lt_of_le_of_lt (le_valueAfter _ ds) fits
    rw [collect, if_pos here]
    exact ih _ fits

theorem collect_lt (acc : Nat) (ds : List Nat) (fits : acc < wordLimit) :
    (collect acc ds).1 < wordLimit := by
  induction ds generalizing acc with
  | nil => exact fits
  | cons d ds ih =>
    rw [collect]
    split
    · rename_i here
      exact ih _ here
    · exact fits

theorem valueAfter_digits (cs : List Char) :
    valueAfter 0 (cs.map (·.toNat - 48)) = Nat.ofDigitChars 10 cs 0 := by
  rw [valueAfter, List.foldl_map, Nat.ofDigitChars_eq_foldl]
  congr 1
  funext n c
  rw [Nat.mul_comm]
  rfl

/-- Only zero itself begins with the digit zero. -/
theorem head?_writeNat {n : Nat} (positive : 0 < n) : (writeNat n).head? ≠ some '0' := by
  induction n using Nat.strongRecOn with
  | ind n ih =>
    rw [writeNat]
    by_cases small : n < 10
    · have digit : ∀ n < 10, 0 < n → n.digitChar ≠ '0' := by decide
      rw [Nat.toDigits_of_lt_base small, List.head?_singleton, ne_eq, Option.some_inj]
      exact digit n small positive
    · have shorter : n / 10 < n := Nat.div_lt_self positive (by decide)
      have first := ih (n / 10) shorter (by omega)
      rw [Nat.toDigits_of_base_le (by decide) (by omega),
        List.head?_append_of_ne_nil _ Nat.toDigits_ne_nil]
      exact first

/-! ### Numbers -/

/-- The characters that may go on with a number. -/
def goesOn (c : Char) : Bool := isNumeral c || c = 'E'

/-- The digits of a number, as they are read. -/
def digitsOf (n : Nat) : List Nat := (writeNat n).map (·.toNat - 48)

theorem valueAfter_digitsOf (n : Nat) : valueAfter 0 (digitsOf n) = n := by
  rw [digitsOf, valueAfter_digits, writeNat, Nat.ofDigitChars_ten_toDigits]

variable {rest : List Char}

theorem digits_writeNat (n : Nat) (ends : Ends goesOn rest) :
    digits (writeNat n ++ rest) = digitsOf n ∧ afterDigits (writeNat n ++ rest) = rest := by
  have all : ∀ c ∈ writeNat n, isDigit c = true := isDigit_of_toDigits
  have stop : Ends isDigit rest := by
    intro c hc
    have other := ends c hc
    rw [goesOn, isNumeral, ← isDigit_eq] at other
    simp_all
  rw [digits, afterDigits, takeWhile_append_of_ends all stop, dropWhile_append_of_ends all stop]
  exact ⟨rfl, rfl⟩

/-- A number in decimal digits has at least one of them, and no superfluous zero. -/
theorem proper_digitsOf (n : Nat) :
    ((digitsOf n).isEmpty || ((digitsOf n).length > 1 && (digitsOf n).head? == some 0)) = false := by
  have filled : writeNat n ≠ [] := Nat.toDigits_ne_nil
  obtain ⟨c, cs, text⟩ := List.exists_cons_of_ne_nil filled
  rcases Nat.eq_zero_or_pos n with rfl | positive
  · rfl
  · have digit : c.isDigit = true := isDigit_of_toDigits c (text ▸ List.mem_cons_self)
    have first : c ≠ '0' := by
      rintro rfl
      exact head?_writeNat positive (by rw [text]; rfl)
    have value : c.toNat - 48 ≠ 0 := by
      intro zero
      have least : 48 ≤ c.toNat := (Char.isDigit_iff_toNat.mp digit).1
      have code : c.toNat = 48 := by omega
      exact first (by rw [← Char.ofNat_toNat c, code])
    simp [digitsOf, text, value]

theorem writeNat_ne_minus (n : Nat) (r : List Char) : writeNat n ++ rest ≠ '-' :: r := by
  have filled : writeNat n ≠ [] := Nat.toDigits_ne_nil
  obtain ⟨c, cs, text⟩ := List.exists_cons_of_ne_nil filled
  have digit : c.isDigit = true := isDigit_of_toDigits c (text ▸ List.mem_cons_self)
  rw [text]
  intro same
  obtain rfl : c = '-' := (List.cons_eq_cons.mp same).1
  exact absurd digit (by decide)

/-- After the digits there is neither a fraction nor an exponent. -/
theorem readNumber_writeInt (n : Int) (ends : Ends goesOn rest) :
    readNumber (writeInt n ++ rest) = some (⟨n < 0, digitsOf n.natAbs, none, none⟩, rest) := by
  obtain ⟨whole, after⟩ := digits_writeNat n.natAbs ends
  have proper := proper_digitsOf n.natAbs
  have last : ∀ c r, rest = c :: r → c ≠ '.' ∧ c ≠ 'e' ∧ c ≠ 'E' := by
    rintro c r rfl
    have stop := ends c rfl
    refine ⟨?_, ?_, ?_⟩ <;> rintro rfl <;> cases stop
  by_cases negative : n < 0
  · rw [writeInt, if_pos negative, List.cons_append, readNumber]
    simp only [whole, after, proper, Bool.false_eq_true, if_false]
    cases rest with
    | nil => simp [negative]
    | cons c r =>
      obtain ⟨point, small, large⟩ := last c r rfl
      simp [negative, point, small, large]
  · have unsigned : ∀ r, writeNat n.natAbs ++ rest ≠ '-' :: r := writeNat_ne_minus _
    rw [writeInt, if_neg negative, readNumber]
    · simp only [whole, after, proper, Bool.false_eq_true, if_false]
      cases rest with
      | nil => simp [negative]
      | cons c r =>
        obtain ⟨point, small, large⟩ := last c r rfl
        simp [negative, point, small, large]
    · exact unsigned

theorem value?_digitsOf {n : Int} (word : Node.IsWord n) :
    (NumberText.mk (n < 0) (digitsOf n.natAbs) none none).value? = some (.int n) := by
  obtain ⟨least, greatest⟩ := word
  have limit : wordLimit = 18446744073709551616 := rfl
  have size : n.natAbs < wordLimit := by omega
  have whole : collect 0 (digitsOf n.natAbs) = (n.natAbs, []) := by
    have value := valueAfter_digitsOf n.natAbs
    have all := collect_of_lt 0 (digitsOf n.natAbs) (by omega)
    rwa [value] at all
  rw [NumberText.value?]
  simp only [whole]
  by_cases negative : n < 0
  · have fits : 0 < n.natAbs ∧ n.natAbs ≤ 9223372036854775808 := by omega
    have value : -(n.natAbs : Int) = n := by omega
    simpa [negative, fits] using value
  · have value : (n.natAbs : Int) = n := by omega
    simp [negative, value]

theorem isWord_of_value? {t : NumberText} {n : Int} (h : t.value? = some (.int n)) :
    Node.IsWord n := by
  have limit : wordLimit = 18446744073709551616 := rfl
  obtain ⟨negative, whole, fraction, exponent⟩ := t
  have bound := collect_lt 0 whole (by decide)
  rw [NumberText.value?] at h
  cases fraction with
  | some ds =>
    have point : ¬ (some ds).isNone = true := by simp
    dsimp only at h
    rw [if_neg fun integer => point integer.1] at h
    obtain ⟨x, -, same⟩ := Option.map_eq_some_iff.mp h
    cases same
  | none =>
    dsimp only at h
    split at h
    · rename_i integer
      obtain ⟨-, -, -, sign⟩ := integer
      have value := Numeral.int.inj (Option.some.inj h)
      cases negative with
      | true =>
        obtain ⟨-, small⟩ : 0 < (collect 0 whole).1 ∧ (collect 0 whole).1 ≤ 9223372036854775808 := by
          simpa using sign
        simp only [if_true] at value
        constructor <;> omega
      | false =>
        simp only [Bool.false_eq_true, if_false] at value
        constructor <;> omega
    · obtain ⟨x, -, same⟩ := Option.map_eq_some_iff.mp h
      cases same

end TrafficTrace.Json
