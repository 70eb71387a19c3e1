import TrafficTrace.Proofs.Number.Rounding
import TrafficTrace.Proofs.Text.Framing

/-!
# The text of a number

The value of a decimal can be read from its text, in each of the layouts. Together with the numbers
apart this makes texts of different numbers different.
-/
namespace TrafficTrace.Number

open Text

/-- The digits after a mark, and the value of an exponent with its sign. -/
def exponentOf : List Char → ℤ
  | _ :: '-' :: ds => -Nat.ofDigitChars 10 ds 0
  | _ :: _ :: ds => Nat.ofDigitChars 10 ds 0
  | _ => 0

/-- The value of a text: all its digits, the number of those after the point, and the exponent. -/
def textValue (cs : List Char) : ℚ :=
  let mantissa := cs.takeWhile (· ≠ 'e')
  let whole := mantissa.takeWhile (· ≠ '.')
  let fraction := (mantissa.dropWhile (· ≠ '.')).drop 1
  Nat.ofDigitChars 10 (whole ++ fraction) 0 *
    (10 : ℚ) ^ (exponentOf (cs.dropWhile (· ≠ 'e')) - fraction.length)

theorem isDigit_ne {c : Char} (h : c.isDigit = true) : c ≠ '.' ∧ c ≠ 'e' ∧ c ≠ '-' ∧ c ≠ '+' := by
  refine ⟨?_, ?_, ?_, ?_⟩
  all_goals
    rintro rfl
    exact absurd h (by decide)

/-- The value of a text that is put together from its parts. -/
theorem textValue_parts (whole point fraction exponent : List Char)
    (hw : ∀ c ∈ whole, c.isDigit = true) (hf : ∀ c ∈ fraction, c.isDigit = true)
    (hp : point = '.' :: fraction ∨ point = [] ∧ fraction = [])
    (he : Ends (· ≠ 'e') exponent) : textValue (whole ++ point ++ exponent) =
      Nat.ofDigitChars 10 (whole ++ fraction) 0 *
        (10 : ℚ) ^ (exponentOf exponent - fraction.length) := by
  have wholePart : ∀ c ∈ whole, decide (c ≠ '.') = true :=
    fun c hc => decide_eq_true (isDigit_ne (hw c hc)).1
  have ends : Ends (fun c => decide (c ≠ '.')) point := by
    rcases hp with rfl | ⟨rfl, -⟩
    · exact ends_cons rfl _
    · exact ends_nil _
  have mantissa : ∀ c ∈ whole ++ point, decide (c ≠ 'e') = true := by
    intro c hc
    rw [decide_eq_true_eq]
    rcases List.mem_append.mp hc with hc | hc
    · exact (isDigit_ne (hw c hc)).2.1
    · rcases hp with rfl | ⟨rfl, -⟩
      · rcases List.mem_cons.mp hc with rfl | hc
        · decide
        · exact (isDigit_ne (hf c hc)).2.1
      · cases hc
  have after : point.drop 1 = fraction := by
    rcases hp with rfl | ⟨rfl, rfl⟩ <;> rfl
  simp only [textValue, takeWhile_append_of_ends mantissa he, dropWhile_append_of_ends mantissa he,
    takeWhile_append_of_ends wholePart ends, dropWhile_append_of_ends wholePart ends, after]

theorem isDigit_of_toDigits {n : ℕ} : ∀ c ∈ Nat.toDigits 10 n, c.isDigit = true :=
  fun _ hc => Nat.isDigit_of_mem_toDigits (by decide) (by decide) hc

theorem isDigit_of_zeros {n : ℕ} : ∀ c ∈ zeros n, c.isDigit = true := by
  intro c hc
  obtain rfl := List.eq_of_mem_replicate hc
  decide

/-- The digit in front of a point that stands first or after a whole number. -/
theorem isDigit_of_zero : ∀ c ∈ ['0'], c.isDigit = true := isDigit_of_zeros (n := 1)

theorem ofDigitChars_zeros_append (n : ℕ) (ds : List Char) :
    Nat.ofDigitChars 10 (zeros n ++ ds) 0 = Nat.ofDigitChars 10 ds 0 := by
  rw [zeros, Nat.ofDigitChars_append, Nat.ofDigitChars_replicate_zero, Nat.mul_zero]

theorem ofDigitChars_append_zeros (n : ℕ) (ds : List Char) :
    Nat.ofDigitChars 10 (ds ++ zeros n) 0 = 10 ^ n * Nat.ofDigitChars 10 ds 0 := by
  rw [zeros, Nat.ofDigitChars_append, Nat.ofDigitChars_replicate_zero]

/-- A text without an exponent. -/
theorem textValue_point (whole fraction : List Char) (hw : ∀ c ∈ whole, c.isDigit = true)
    (hf : ∀ c ∈ fraction, c.isDigit = true) : textValue (whole ++ '.' :: fraction) =
      Nat.ofDigitChars 10 (whole ++ fraction) 0 * (10 : ℚ) ^ (-(fraction.length : ℤ)) := by
  have parts := textValue_parts whole _ fraction [] hw hf (.inl rfl) (ends_nil _)
  rw [List.append_nil] at parts
  rw [parts, ← zero_sub]
  rfl

theorem exponentOf_write (e : ℤ) :
    exponentOf ('e' :: (if e < 0 then '-' else '+') :: Nat.toDigits 10 e.natAbs) = e := by
  split
  · rw [exponentOf, Nat.ofDigitChars_ten_toDigits]
    omega
  · rw [exponentOf, Nat.ofDigitChars_ten_toDigits]
    · omega
    · simp

/-- A text with an exponent: the point stands after the first digit, if there are others. -/
theorem textValue_scientific (ds : List Char) (e : ℤ) :
    (∀ c ∈ ds, c.isDigit = true) → ds ≠ [] →
    textValue ((match ds with
      | [c] => [c]
      | c :: cs => c :: '.' :: cs
      | [] => []) ++ 'e' :: (if e < 0 then '-' else '+') :: Nat.toDigits 10 e.natAbs) =
    Nat.ofDigitChars 10 ds 0 * (10 : ℚ) ^ (e - (ds.length - 1)) := by
  intro hd hn
  have marked (rest : List Char) : Ends (fun c => decide (c ≠ 'e')) ('e' :: rest) :=
    ends_cons rfl rest
  have exponent := exponentOf_write e
  generalize (if e < 0 then '-' else '+') :: Nat.toDigits 10 e.natAbs = rest at *
  rcases ds with _ | ⟨c, _ | ⟨d, cs⟩⟩
  · exact absurd rfl hn
  · have parts := textValue_parts [c] [] [] _ hd nofun (.inr ⟨rfl, rfl⟩) (marked rest)
    rw [exponent] at parts
    simpa using parts
  · have parts := textValue_parts [c] _ (d :: cs) _ (fun x hx => hd x (by simp_all))
      (fun x hx => hd x (List.mem_cons_of_mem _ hx)) (.inl rfl) (marked rest)
    rw [exponent] at parts
    simpa using parts

/-- A whole number, with zeros up to the point. -/
theorem textValue_whole {ds : List Char} (digits : ∀ c ∈ ds, c.isDigit = true) (n : ℕ) :
    textValue (ds ++ zeros n ++ ['.', '0']) = Nat.ofDigitChars 10 ds 0 * (10 : ℚ) ^ (n : ℤ) := by
  have all : ∀ c ∈ ds ++ zeros n, c.isDigit = true := by
    simpa [or_imp, forall_and] using ⟨digits, isDigit_of_zeros⟩
  have more : zeros n ++ ['0'] = zeros (n + 1) := List.replicate_succ'.symm
  rw [textValue_point _ ['0'] all isDigit_of_zero, List.append_assoc, more,
    ofDigitChars_append_zeros]
  push_cast
  rw [List.length_singleton, zpow_natCast, Nat.cast_one, zpow_neg, zpow_one, pow_succ]
  ring

/-- A number below one, with zeros after the point. -/
theorem textValue_small {ds : List Char} (digits : ∀ c ∈ ds, c.isDigit = true) (n : ℕ) :
    textValue ('0' :: '.' :: (zeros n ++ ds)) =
      Nat.ofDigitChars 10 ds 0 * (10 : ℚ) ^ (-(n + ds.length : ℤ)) := by
  have all : ∀ c ∈ zeros n ++ ds, c.isDigit = true := by
    simpa [or_imp, forall_and] using ⟨isDigit_of_zeros, digits⟩
  have more : (['0'] ++ (zeros n ++ ds) : List Char) = zeros (n + 1) ++ ds := rfl
  have parts := textValue_point ['0'] (zeros n ++ ds) isDigit_of_zero all
  rw [more, ofDigitChars_zeros_append, List.length_append, zeros, List.length_replicate] at parts
  exact_mod_cast parts

/-- The text of a decimal says its value, whatever the layout. -/
theorem textValue_write (l : Layout) (d : Decimal) : textValue (l.write d) = d.value := by
  have value : Nat.ofDigitChars 10 (Nat.toDigits 10 d.digits) 0 = d.digits :=
    Nat.ofDigitChars_ten_toDigits
  have digits := isDigit_of_toDigits (n := d.digits)
  have filled : Nat.toDigits 10 d.digits ≠ [] := Nat.toDigits_ne_nil
  unfold Layout.write Decimal.value
  dsimp only
  generalize Nat.toDigits 10 d.digits = ds at *
  rw [← value]
  split
  · rename_i zero
    have parts := textValue_point ['0'] ['0'] isDigit_of_zero isDigit_of_zero
    rw [zero, Nat.cast_zero, zero_mul]
    have zeros : Nat.ofDigitChars 10 (['0'] ++ ['0']) 0 = 0 := by decide
    rw [zeros, Nat.cast_zero, zero_mul] at parts
    exact parts
  · split
    · rename_i whole
      have same : ((d.exponent.toNat : ℕ) : ℤ) = d.exponent := Int.toNat_of_nonneg whole.1
      refine (textValue_whole digits d.exponent.toNat).trans ?_
      rw [same]
    · split
      · rename_i inside
        have parts := textValue_point (ds.take (ds.length + d.exponent).toNat)
          (ds.drop (ds.length + d.exponent).toNat)
          (fun c hc => digits c (List.mem_of_mem_take hc))
          (fun c hc => digits c (List.mem_of_mem_drop hc))
        rw [parts, List.take_append_drop, List.length_drop]
        congr 2
        omega
      · split
        · rename_i before
          refine (textValue_small digits _).trans ?_
          congr 2
          omega
        · refine (textValue_scientific ds _ digits filled).trans ?_
          congr 2
          ring

/-- The characters of which numbers are written. -/
def isNumeral (c : Char) : Bool := c.isDigit || c ∈ ['.', 'e', '-', '+']

theorem isNumeral_of_isDigit {c : Char} (h : c.isDigit = true) : isNumeral c = true := by
  simp [isNumeral, h]

/-- A text that begins with digits and goes on with a point or an exponent. -/
structure IsFraction (cs whole rest : List Char) (mark : Char) : Prop where
  text : cs = whole ++ mark :: rest
  nonempty : whole ≠ []
  digits : ∀ c ∈ whole, c.isDigit = true
  mark : mark = '.' ∨ mark = 'e'
  numerals : ∀ c ∈ rest, isNumeral c = true

theorem isFraction_write (l : Layout) (d : Decimal) :
    ∃ whole rest mark, IsFraction (l.write d) whole rest mark := by
  have digits := isDigit_of_toDigits (n := d.digits)
  have filled : Nat.toDigits 10 d.digits ≠ [] := Nat.toDigits_ne_nil
  have numerals : ∀ c ∈ Nat.toDigits 10 d.digits, isNumeral c = true :=
    fun c hc => isNumeral_of_isDigit (digits c hc)
  have zero : ∀ c ∈ ['0'], isNumeral c = true :=
    fun c hc => isNumeral_of_isDigit (isDigit_of_zero c hc)
  unfold Layout.write
  dsimp only
  generalize Nat.toDigits 10 d.digits = ds at *
  split
  · exact ⟨['0'], ['0'], '.', rfl, by simp, isDigit_of_zero, .inl rfl, zero⟩
  · split
    · exact ⟨ds ++ zeros d.exponent.toNat, ['0'], '.', rfl, by simp [filled],
        by simpa [or_imp, forall_and] using ⟨digits, isDigit_of_zeros⟩, .inl rfl, zero⟩
    · split
      · rename_i inside
        refine ⟨_, _, '.', rfl, ?_, fun c hc => digits c (List.mem_of_mem_take hc), .inl rfl,
          fun c hc => numerals c (List.mem_of_mem_drop hc)⟩
        rw [ne_eq, List.take_eq_nil_iff, not_or]
        exact ⟨by omega, filled⟩
      · split
        · refine ⟨['0'], _, '.', rfl, by simp, isDigit_of_zero, .inl rfl, ?_⟩
          simpa [or_imp, forall_and] using
            ⟨fun c hc => isNumeral_of_isDigit (isDigit_of_zeros c hc), numerals⟩
        · have exponent (e : ℤ) : ∀ c ∈ (if e < 0 then '-' else '+') :: Nat.toDigits 10 e.natAbs,
              isNumeral c = true := by
            intro c hc
            rcases List.mem_cons.mp hc with rfl | hc
            · split <;> decide
            · exact isNumeral_of_isDigit (isDigit_of_toDigits c hc)
          rcases ds with _ | ⟨c, _ | ⟨d, cs⟩⟩
          · exact absurd rfl filled
          · exact ⟨[c], _, 'e', rfl, by simp, digits, .inr rfl, exponent _⟩
          · refine ⟨[c], _, '.', rfl, by simp, fun x hx => digits x (by simp_all), .inl rfl, ?_⟩
            intro x hx
            rcases List.mem_append.mp hx with hx | hx
            · exact numerals x (List.mem_cons_of_mem _ hx)
            · rcases List.mem_cons.mp hx with rfl | hx
              · decide
              · exact exponent _ x hx

/-- The text of a decimal begins with a digit. -/
theorem write_eq_cons (l : Layout) (d : Decimal) :
    ∃ c rest, l.write d = c :: rest ∧ c.isDigit = true := by
  obtain ⟨whole, rest, mark, shape⟩ := isFraction_write l d
  rcases whole with _ | ⟨c, whole⟩
  · exact absurd rfl shape.nonempty
  · exact ⟨c, whole ++ mark :: rest, shape.text, shape.digits c List.mem_cons_self⟩

namespace Binary64

theorem isNumeral_write (x : Binary64) : ∀ c ∈ x.write, isNumeral c = true := by
  obtain ⟨whole, rest, mark, shape⟩ := isFraction_write .document x.shortest
  intro c hc
  rw [write, shape.text] at hc
  simp only [List.mem_append, List.mem_cons] at hc
  rcases hc with sign | hc | rfl | hc
  · split at sign
    · rcases List.mem_singleton.mp sign with rfl
      decide
    · cases sign
  · exact isNumeral_of_isDigit (shape.digits c hc)
  · rcases shape.mark with rfl | rfl <;> decide
  · exact shape.numerals c hc

/-- The text of a number that is no integer has a point or an exponent. -/
theorem exists_mark (x : Binary64) : ∃ c ∈ x.write, c = '.' ∨ c = 'e' := by
  obtain ⟨whole, rest, mark, shape⟩ := isFraction_write .document x.shortest
  refine ⟨mark, ?_, shape.mark⟩
  rw [write, shape.text]
  simp

theorem value_shortest_eq_zero_iff {x : Binary64} (h : x.IsCanonical) :
    x.shortest.value = 0 ↔ x.mantissa = 0 := by
  constructor
  · intro zero
    by_contra nonzero
    have low := (shortest_reads h nonzero).low_le
    rw [zero] at low
    exact absurd (low_pos nonzero) (not_lt.mpr low)
  · intro zero
    have isZero : x.isZero = true := by simp [isZero, zero]
    rw [shortest, isZero, if_pos rfl, Decimal.value, Nat.cast_zero, zero_mul]

/-- Different numbers have different texts. -/
theorem write_injective {x y : Binary64} (hx : x.IsCanonical) (hy : y.IsCanonical)
    (h : x.write = y.write) : x = y := by
  have sign : x.negative = y.negative := by
    obtain ⟨c, rest, text, digit⟩ := write_eq_cons .document x.shortest
    obtain ⟨c', rest', text', digit'⟩ := write_eq_cons .document y.shortest
    rw [write, write, text, text'] at h
    cases hx : x.negative <;> cases hy : y.negative <;> simp only [hx, hy] at h ⊢
    · exact absurd (List.cons_eq_cons.mp h).1 (isDigit_ne digit).2.2.1
    · exact absurd (List.cons_eq_cons.mp h).1.symm (isDigit_ne digit').2.2.1
  have layout : Layout.document.write x.shortest = Layout.document.write y.shortest := by
    rw [write, write, sign] at h
    exact List.append_cancel_left h
  have value : x.shortest.value = y.shortest.value := by
    rw [← textValue_write .document, layout, textValue_write]
  have magnitude : x.mantissa = y.mantissa ∧ x.exponent = y.exponent := by
    by_cases zero : x.mantissa = 0
    · have zero' : y.mantissa = 0 := by
        rw [← value_shortest_eq_zero_iff hy, ← value, value_shortest_eq_zero_iff hx]
        exact zero
      have small : ¬ leastFull ≤ 0 := by decide
      have least := hx.full.resolve_left (zero ▸ small)
      have least' := hy.full.resolve_left (zero' ▸ small)
      exact ⟨zero.trans zero'.symm, least.trans least'.symm⟩
    · have nonzero : y.mantissa ≠ 0 := by
        rw [ne_eq, ← value_shortest_eq_zero_iff hy, ← value, value_shortest_eq_zero_iff hx]
        exact zero
      have back := shortest_reads hy nonzero
      rw [← value] at back
      exact eq_of_reads hx hy (shortest_reads hx zero) back
  obtain ⟨negative, mantissa, exponent⟩ := x
  obtain ⟨negative', mantissa', exponent'⟩ := y
  obtain rfl : negative = negative' := sign
  obtain ⟨rfl, rfl⟩ : mantissa = mantissa' ∧ exponent = exponent' := magnitude
  rfl

end Binary64

end TrafficTrace.Number
