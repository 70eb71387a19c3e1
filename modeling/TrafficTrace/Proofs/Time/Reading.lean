import TrafficTrace.Proofs.Time.Written

/-!
# A moment is read from its own text

The text of a moment of the calendar has no blanks and no offset, and each number in it ends where
its separator stands. So it is read as this moment.
-/
namespace TrafficTrace.Timestamp

open Number Text

variable {rest : List Char}

/-- Digits up to the most that are read, where no further digit follows. -/
theorem readDigits_append {most : Nat} {ds : List Char} (digits : ∀ c ∈ ds, c.isDigit = true)
    (filled : ds ≠ []) (short : ds.length ≤ most) (ends : Ends Char.isDigit rest) :
    readDigits most (ds ++ rest) = some (Nat.ofDigitChars 10 ds 0, rest) := by
  have taken : (ds ++ rest).take most = ds ++ rest.take (most - ds.length) := by
    rw [List.take_append, List.take_of_length_le short]
  have stop : Ends Char.isDigit (rest.take (most - ds.length)) := by
    cases rest with
    | nil => simpa using ends
    | cons c r =>
      cases most - ds.length with
      | zero => exact ends_nil _
      | succ k => exact ends_cons (ends c rfl) _
  have found : ((ds ++ rest).take most).takeWhile isDigit = ds := by
    rw [taken]
    exact takeWhile_append_of_ends digits stop
  have value : ds.foldl (fun n c => n * 10 + (c.toNat - 48)) 0 = Nat.ofDigitChars 10 ds 0 := by
    rw [Nat.ofDigitChars_eq_foldl]
    congr 1
    funext n c
    rw [Nat.mul_comm]
    rfl
  rw [readDigits]
  simp [found, value, filled]

theorem skipBlanks_cons {c : Char} (visible : Text.isBlank c = false) (r : List Char) :
    skipBlanks (c :: r) = c :: r := by
  rw [skipBlanks, List.dropWhile_cons_of_neg (by simp [visible])]

theorem skipBlanks_padded (w n : Nat) (r : List Char) :
    skipBlanks (padded w n ++ r) = padded w n ++ r := by
  obtain ⟨c, cs, text, digit⟩ := padded_eq_cons w n
  rw [text, List.cons_append]
  exact skipBlanks_cons (isBlank_eq_false_of_isDigit digit) _

theorem readDigits_padded {most w n : Nat} (short : (padded w n).length ≤ most)
    (ends : Ends Char.isDigit rest) : readDigits most (padded w n ++ rest) = some (n, rest) := by
  have filled : padded w n ≠ [] := by
    obtain ⟨c, cs, text, -⟩ := padded_eq_cons w n
    rw [text]
    exact List.cons_ne_nil _ _
  rw [readDigits_append isDigit_of_padded filled short ends, ofDigitChars_padded]

/-- A number of two digits before its separator. -/
theorem readField_padded {n : Nat} (small : n < 100) {c : Char} (mark : c.isDigit = false)
    (r : List Char) : readField 2 (padded 2 n ++ c :: r) = some (n, c :: r) := by
  have short : (padded 2 n).length ≤ 2 := (length_padded (by decide) (by omega)).le
  rw [readField, skipBlanks_padded, readDigits_padded short (ends_cons mark r)]

theorem readMark_cons {mark : Char} (visible : Text.isBlank mark = false) (r : List Char) :
    readMark mark (mark :: r) = some r := by
  rw [readMark, skipBlanks_cons visible]
  simp only [if_true]

/-- Years of four digits stand without a sign, and all others with one. -/
theorem readYear_writeYear (y : Int) (r : List Char) :
    readYear (writeYear y ++ '-' :: r) = some (y, '-' :: r) := by
  have ends : Ends Char.isDigit ('-' :: r) := ends_cons rfl r
  have whole (n : Nat) : (padded 4 n).length ≤ (padded 4 n ++ '-' :: r).length := by
    rw [List.length_append]
    omega
  rw [writeYear]
  split
  · rename_i short
    have four : (padded 4 y.natAbs).length ≤ 4 := (length_padded (by decide) (by omega)).le
    have read := readDigits_padded four ends
    obtain ⟨c, cs, text, digit⟩ := padded_eq_cons 4 y.natAbs
    have value : ((y.natAbs : Nat) : Int) = y := by omega
    have unsigned {sign : Char} (mark : sign.isDigit = false) (q : List Char) :
        padded 4 y.natAbs ++ '-' :: r ≠ sign :: q := by
      rw [text]
      intro same
      obtain rfl : c = sign := (List.cons_eq_cons.mp same).1
      rw [mark] at digit
      cases digit
    rw [readYear, skipBlanks_padded]
    split
    · exact absurd ‹_› (unsigned rfl _)
    · exact absurd ‹_› (unsigned rfl _)
    · simp only [read, Option.map_some, value]
  · rename_i long
    by_cases negative : y < 0
    · have value : -((y.natAbs : Nat) : Int) = y := by omega
      rw [if_pos negative, List.cons_append, readYear, skipBlanks_cons rfl]
      simp only [readDigits_padded (whole _) ends, Option.map_some, value]
    · have value : ((y.natAbs : Nat) : Int) = y := by omega
      rw [if_neg negative, List.cons_append, readYear, skipBlanks_cons rfl]
      simp only [readDigits_padded (whole _) ends, Option.map_some, value]

/-- Digits after the point are counted, so that fewer than nine are read as if filled up. -/
theorem readFraction_digits {w n : Nat} (positive : 0 < w) (most : w ≤ 9) (fits : n < 10 ^ w) :
    readFraction ('.' :: padded w n ++ ['Z']) = some (n * 10 ^ (9 - w), ['Z']) := by
  have length := length_padded positive fits
  have ends : Ends Char.isDigit ['Z'] := ends_cons rfl []
  have read : readDigits 9 (padded w n ++ ['Z']) = some (n, ['Z']) :=
    readDigits_padded (length.trans_le most) ends
  have count : (padded w n ++ ['Z']).length - ['Z'].length = w := by
    rw [List.length_append, length, Nat.add_sub_cancel]
  rw [List.cons_append, readFraction]
  simp only [read, Option.bind_eq_bind, Option.bind_some, count]
  rfl

theorem readFraction_writeFraction {n : Nat} (h : n < 1000000000) :
    readFraction (writeFraction n ++ ['Z']) = some (n, ['Z']) := by
  rw [writeFraction]
  split
  · rename_i zero
    rw [zero]
    rfl
  · split
    · have value : n / 1000000 * 10 ^ (9 - 3) = n := by omega
      rw [readFraction_digits (by decide) (by decide) (by omega), value]
    · split
      · have value : n / 1000 * 10 ^ (9 - 6) = n := by omega
        rw [readFraction_digits (by decide) (by decide) (by omega), value]
      · have value : n * 10 ^ (9 - 9) = n := by omega
        rw [readFraction_digits (by decide) (by decide) (by omega), value]

theorem shift_zero {t : Timestamp} (hour : t.hour < 24) (minute : t.minute < 60) :
    t.shift 0 = t := by
  have early : ¬ (t.hour * 60 + t.minute - 0 : Int) < 0 := by omega
  have late : (t.hour * 60 + t.minute - 0 : Int) < 1440 := by omega
  have hours : ((t.hour * 60 + t.minute - 0 : Int) / 60).toNat = t.hour := by omega
  have minutes : ((t.hour * 60 + t.minute - 0 : Int) % 60).toNat = t.minute := by omega
  simp only [shift, if_neg early, if_pos late, hours, minutes]

theorem bounds_of_isValid {t : Timestamp} (valid : t.isValid = true) :
    t.date.month < 100 ∧ t.date.day < 100 ∧ t.hour < 24 ∧ t.minute < 60 ∧ t.second < 100 ∧
      t.nano < 1000000000 := by
  simp only [isValid, Date.isValid, Bool.and_eq_true, decide_eq_true_eq] at valid
  obtain ⟨⟨⟨⟨⟨⟨⟨⟨⟨-, -⟩, -⟩, month⟩, -⟩, day⟩, hour⟩, minute⟩, second⟩, nano⟩ := valid
  have days : Date.daysInMonth t.date.year t.date.month ≤ 31 := by
    rw [Date.daysInMonth]
    split_ifs <;> omega
  omega

/-- A moment of the calendar is read from its text. -/
theorem ofText?_toText {t : Timestamp} (valid : t.isValid = true) : ofText? t.toText = some t := by
  obtain ⟨month, day, hour, minute, second, nano⟩ := bounds_of_isValid valid
  have hours : t.hour < 100 := by omega
  have minutes : t.minute < 100 := by omega
  obtain ⟨c, q, text, mark⟩ := writeFraction_append_eq_cons t.nano
  have written : t.write = writeYear t.date.year ++ '-' :: (padded 2 t.date.month ++ '-' ::
      (padded 2 t.date.day ++ 'T' :: (padded 2 t.hour ++ ':' :: (padded 2 t.minute ++ ':' ::
        (padded 2 t.second ++ c :: q))))) := by
    rw [← text]
    simp only [write, List.append_assoc, List.cons_append]
  have fraction : readFraction (c :: q) = some (t.nano, ['Z']) := by
    rw [← text]
    exact readFraction_writeFraction nano
  have following {α β : Type} {o : Option α} {f : α → Option β} {a : α} {b : β}
      (first : o = some a) (next : f a = some b) : o >>= f = some b :=
    Option.bind_eq_some_iff.mpr ⟨a, first, next⟩
  rw [ofText?, toText, String.toList_ofList, written, read?]
  refine following (readYear_writeYear _ _) (following (readMark_cons rfl _) ?_)
  refine following (readField_padded month rfl _) (following (readMark_cons rfl _) ?_)
  refine following (readField_padded day rfl _) (following rfl ?_)
  refine following (readField_padded hours rfl _) (following (readMark_cons rfl _) ?_)
  refine following (readField_padded minutes rfl _) (following (readMark_cons rfl _) ?_)
  refine following (readField_padded second mark _) (following fraction (following rfl ?_))
  -- the text has no offset, so the moment is the one of the clock
  change (if true && t.isValid && (t.shift 0).isValid then some (t.shift 0) else none) = some t
  rw [shift_zero hour minute, valid]
  rfl

end TrafficTrace.Timestamp
