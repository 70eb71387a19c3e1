import TrafficTrace.Proofs.Number.Digits
import TrafficTrace.Time.Timestamp

/-!
# The text of a moment

Different moments of the calendar have different texts: every field can be read from its digits. A
moment that is read is one of the calendar.
-/
namespace TrafficTrace.Timestamp

open Number Text

theorem isDigit_of_padded {w n : Nat} : ∀ c ∈ padded w n, c.isDigit = true := by
  intro c hc
  rcases List.mem_append.mp hc with hc | hc
  · exact isDigit_of_zeros c hc
  · exact isDigit_of_toDigits c hc

theorem ofDigitChars_padded (w n : Nat) : Nat.ofDigitChars 10 (padded w n) 0 = n := by
  rw [padded]
  exact (ofDigitChars_zeros_append _ _).trans Nat.ofDigitChars_ten_toDigits

theorem padded_injective {w m n : Nat} (h : padded w m = padded w n) : m = n := by
  rw [← ofDigitChars_padded w m, h, ofDigitChars_padded]

theorem length_padded {w n : Nat} (pos : 0 < w) (fits : n < 10 ^ w) : (padded w n).length = w := by
  have := (Nat.length_toDigits_le_iff (b := 10) (by decide) pos).mpr fits
  rw [padded, List.length_append, List.length_replicate]
  omega

/-- A field ends where its mark stands. -/
theorem field_append_inj {w m n : Nat} {c d : Char} {r s : List Char} (hc : c.isDigit = false)
    (hd : d.isDigit = false) (h : padded w m ++ c :: r = padded w n ++ d :: s) :
    m = n ∧ c :: r = d :: s := by
  obtain ⟨digits, rest⟩ := append_inj_of_ends isDigit_of_padded isDigit_of_padded (ends_cons hc r)
    (ends_cons hd s) h
  exact ⟨padded_injective digits, rest⟩

theorem padded_eq_cons (w n : Nat) : ∃ c rest, padded w n = c :: rest ∧ c.isDigit = true := by
  have filled : padded w n ≠ [] := by
    rw [padded, ne_eq, List.append_eq_nil_iff, not_and]
    exact fun _ => Nat.toDigits_ne_nil
  obtain ⟨c, rest, text⟩ := List.exists_cons_of_ne_nil filled
  exact ⟨c, rest, text, isDigit_of_padded c (text ▸ List.mem_cons_self)⟩

theorem year_append_inj {y z : Int} {r s : List Char}
    (h : writeYear y ++ '-' :: r = writeYear z ++ '-' :: s) : y = z ∧ r = s := by
  have unsigned {n : Nat} {q : List Char} {c : Char} {t : List Char} (hc : c = '-' ∨ c = '+') :
      padded 4 n ++ q ≠ c :: t := by
    obtain ⟨d, rest, text, digit⟩ := padded_eq_cons 4 n
    rw [text]
    intro same
    obtain rfl : d = c := (List.cons_eq_cons.mp same).1
    rcases hc with rfl | rfl <;> exact absurd digit (by decide)
  have sign (y : Int) :
      (if y < 0 then '-' else '+') = '-' ∨ (if y < 0 then '-' else '+') = '+' := by
    split <;> simp
  by_cases short : 0 ≤ y ∧ y ≤ 9999 <;> by_cases short' : 0 ≤ z ∧ z ≤ 9999
  · rw [writeYear, writeYear, if_pos short, if_pos short'] at h
    obtain ⟨digits, rest⟩ := field_append_inj rfl rfl h
    exact ⟨by omega, (List.cons_eq_cons.mp rest).2⟩
  · rw [writeYear, writeYear, if_pos short, if_neg short'] at h
    exact absurd h (unsigned (sign z))
  · rw [writeYear, writeYear, if_neg short, if_pos short'] at h
    exact absurd h.symm (unsigned (sign y))
  · rw [writeYear, writeYear, if_neg short, if_neg short'] at h
    obtain ⟨signs, rest⟩ := List.cons_eq_cons.mp h
    obtain ⟨digits, rest⟩ := field_append_inj rfl rfl rest
    refine ⟨?_, (List.cons_eq_cons.mp rest).2⟩
    split at signs <;> split at signs <;> first | omega | cases signs

/-- The value of the digits after the point, in billionths. -/
def fractionValue : List Char → Nat
  | [] => 0
  | _ :: ds => Nat.ofDigitChars 10 ds 0 * 10 ^ (9 - ds.length)

theorem fractionValue_write {n : Nat} (h : n < 1000000000) :
    fractionValue (writeFraction n) = n := by
  rw [writeFraction]
  split
  · rename_i zero
    exact zero.symm
  · split
    · rw [fractionValue, ofDigitChars_padded, length_padded (by decide) (by omega)]
      omega
    · split
      · rw [fractionValue, ofDigitChars_padded, length_padded (by decide) (by omega)]
        omega
      · rw [fractionValue, ofDigitChars_padded, length_padded (by decide) (by omega)]
        omega

theorem writeFraction_append_eq_cons (n : Nat) :
    ∃ c rest, writeFraction n ++ ['Z'] = c :: rest ∧ c.isDigit = false := by
  rw [writeFraction]
  split
  · exact ⟨'Z', [], rfl, rfl⟩
  · split
    · exact ⟨'.', _, rfl, rfl⟩
    · split <;> exact ⟨'.', _, rfl, rfl⟩

theorem write_injective {t u : Timestamp} (ht : t.isValid = true) (hu : u.isValid = true)
    (h : t.write = u.write) : t = u := by
  have nanos {t : Timestamp} (ht : t.isValid = true) : t.nano < 1000000000 := by
    simp only [isValid, Bool.and_eq_true, decide_eq_true_eq] at ht
    exact ht.2
  obtain ⟨⟨year, month, day⟩, hour, minute, second, nano⟩ := t
  obtain ⟨⟨year', month', day'⟩, hour', minute', second', nano'⟩ := u
  simp only [write, List.append_assoc, List.cons_append] at h
  obtain ⟨rfl, r₁⟩ := year_append_inj h
  obtain ⟨rfl, r₂⟩ := field_append_inj rfl rfl r₁
  obtain ⟨rfl, r₃⟩ := field_append_inj rfl rfl (List.cons_eq_cons.mp r₂).2
  obtain ⟨rfl, r₄⟩ := field_append_inj rfl rfl (List.cons_eq_cons.mp r₃).2
  obtain ⟨rfl, r₅⟩ := field_append_inj rfl rfl (List.cons_eq_cons.mp r₄).2
  have last := (List.cons_eq_cons.mp r₅).2
  obtain ⟨c, rest, text, mark⟩ := writeFraction_append_eq_cons nano
  obtain ⟨c', rest', text', mark'⟩ := writeFraction_append_eq_cons nano'
  rw [text, text'] at last
  obtain ⟨rfl, fraction⟩ := field_append_inj mark mark' last
  rw [← text, ← text'] at fraction
  have value := fractionValue_write (nanos ht)
  rw [List.append_cancel_right fraction, fractionValue_write (nanos hu)] at value
  obtain rfl : nano' = nano := value
  rfl

theorem forall_mem_bind {α β : Type} {P : β → Prop} {o : Option α} {f : α → Option β}
    (h : ∀ a, ∀ b ∈ f a, P b) : ∀ b ∈ o >>= f, P b := by
  intro b hb
  obtain ⟨a, -, hb⟩ := Option.bind_eq_some_iff.mp hb
  exact h a b hb

theorem isValid_of_mem_read? (cs : List Char) : ∀ t ∈ read? cs, t.isValid = true := by
  rw [read?]
  refine forall_mem_bind fun ⟨year, cs⟩ => forall_mem_bind fun cs => forall_mem_bind
    fun ⟨month, cs⟩ => forall_mem_bind fun cs => forall_mem_bind fun ⟨day, cs⟩ => ?_
  dsimp only
  -- whichever mark stands before the time
  split
  all_goals
    refine forall_mem_bind fun cs => forall_mem_bind fun ⟨hour, cs⟩ => forall_mem_bind fun cs =>
      forall_mem_bind fun ⟨minute, cs⟩ => forall_mem_bind fun cs => forall_mem_bind
      fun ⟨second, cs⟩ => forall_mem_bind fun ⟨nano, cs⟩ => forall_mem_bind
      fun ⟨offset, cs⟩ => ?_
    intro t ht
    dsimp only at ht
    split at ht
    · rename_i checked
      cases ht
      exact (Bool.and_eq_true_iff.mp checked).2
    · cases ht

end TrafficTrace.Timestamp
