import TrafficTrace.Proofs.Text.Casing
import TrafficTrace.Text.Hex

/-!
# Bytes and their digits

Bytes are written with two small digits each. What is read as bytes are the digits in either case,
two by two; written again they are the same digits in small letters.
-/
namespace TrafficTrace.Text

/-- A digit as it is written. -/
def IsSmallHexDigit (c : Char) : Prop := ('0' ≤ c ∧ c ≤ '9') ∨ ('a' ≤ c ∧ c ≤ 'f')

/-- A digit as it may be read. -/
def IsHexDigit (c : Char) : Prop := IsSmallHexDigit c ∨ ('A' ≤ c ∧ c ≤ 'F')

instance (c : Char) : Decidable (IsSmallHexDigit c) := inferInstanceAs (Decidable (_ ∨ _))
instance (c : Char) : Decidable (IsHexDigit c) := inferInstanceAs (Decidable (_ ∨ _))

variable {c : Char} {cs : List Char} {bs : List UInt8}

theorem IsHexDigit.toNat_lt (h : IsHexDigit c) : c.toNat < 128 := by
  have toNat_le {a b : Char} : a ≤ b ↔ a.toNat ≤ b.toNat := Iff.rfl
  simp only [IsHexDigit, IsSmallHexDigit, toNat_le] at h
  rcases h with (⟨-, h⟩ | ⟨-, h⟩) | ⟨-, h⟩
  · exact Nat.lt_of_le_of_lt h (by decide)
  · exact Nat.lt_of_le_of_lt h (by decide)
  · exact Nat.lt_of_le_of_lt h (by decide)

theorem of_isHexDigit {P : Char → Prop}
    (h : ∀ n < 128, IsHexDigit (Char.ofNat n) → P (Char.ofNat n)) (digit : IsHexDigit c) : P c := by
  have seen := h c.toNat digit.toNat_lt
  rw [Char.ofNat_toNat] at seen
  exact seen digit

/-- Small digits are not changed by what makes letters small. -/
theorem IsSmallHexDigit.asciiLowerChar_eq (h : IsSmallHexDigit c) : asciiLowerChar c = c :=
  @of_isHexDigit c (fun c => IsSmallHexDigit c → asciiLowerChar c = c) (by decide) (.inl h) h

theorem map_asciiLowerChar_eq (h : ∀ c ∈ cs, IsSmallHexDigit c) : cs.map asciiLowerChar = cs :=
  (List.map_congr_left fun c hc => (h c hc).asciiLowerChar_eq).trans (List.map_id' _)

theorem isSmallHexDigit_hexDigit {n : Nat} (h : n < 16) : IsSmallHexDigit (hexDigit n) := by
  revert n
  decide

/-- The digits are the characters that have a value. -/
theorem hexValue?_isSome_iff : (hexValue? c).isSome ↔ IsHexDigit c := by
  rw [hexValue?, IsHexDigit, IsSmallHexDigit]
  split
  · simp [*]
  · split
    · simp [*]
    · split
      · simp [*]
      · simp [*]

theorem ignoresCase_hexValue? : IgnoresCase hexValue? := ignoresCase_of_letters (by decide)

theorem isHexDigit_asciiLowerChar_iff : IsHexDigit (asciiLowerChar c) ↔ IsHexDigit c := by
  rw [← hexValue?_isSome_iff, ← hexValue?_isSome_iff, ignoresCase_hexValue?]

/-- The digit of a value is the character that has the value, in small letters. -/
theorem hexDigit_of_hexValue? {n : Nat} (h : hexValue? c = some n) :
    hexDigit n = asciiLowerChar c := by
  have digit : IsHexDigit c := hexValue?_isSome_iff.mp (by rw [h]; rfl)
  have written : ∀ n, hexValue? c = some n → hexDigit n = asciiLowerChar c :=
    @of_isHexDigit c (fun c => ∀ n, hexValue? c = some n → hexDigit n = asciiLowerChar c)
      (by decide) digit
  exact written n h

theorem isSmallHexDigit_of_mem_hexOfBytes (h : c ∈ hexOfBytes bs) : IsSmallHexDigit c := by
  obtain ⟨b, -, hc⟩ := List.mem_flatMap.mp h
  have byte : b.toNat < 256 := b.toNat_lt
  have high : b.toNat / 16 < 16 := by omega
  have low : b.toNat % 16 < 16 := by omega
  simp only [hexOfByte, List.mem_cons, List.not_mem_nil, or_false] at hc
  rcases hc with rfl | rfl
  · exact isSmallHexDigit_hexDigit high
  · exact isSmallHexDigit_hexDigit low

theorem hexOfByte_ofNat {hi lo : Nat} (high : hi < 16) (low : lo < 16) :
    hexOfByte (UInt8.ofNat (hi * 16 + lo)) = [hexDigit hi, hexDigit lo] := by
  have value : (UInt8.ofNat (hi * 16 + lo)).toNat = hi * 16 + lo := by
    rw [UInt8.toNat_ofNat']
    omega
  have first : (hi * 16 + lo) / 16 = hi := by omega
  have second : (hi * 16 + lo) % 16 = lo := by omega
  rw [hexOfByte, value, first, second]

theorem bytesOfHex?_map (cs : List Char) : bytesOfHex? (cs.map asciiLowerChar) = bytesOfHex? cs := by
  fun_induction bytesOfHex? cs with
  | case1 => rfl
  | case2 => rfl
  | case3 a b rest ih =>
    rw [List.map_cons, List.map_cons, bytesOfHex?, ignoresCase_hexValue?, ignoresCase_hexValue?, ih]

/-- Bytes are read from their own digits, in either case, and from nothing else. -/
theorem bytesOfHex?_eq_some_iff :
    bytesOfHex? cs = some bs ↔ hexOfBytes bs = cs.map asciiLowerChar := by
  constructor
  · intro h
    fun_induction bytesOfHex? cs generalizing bs with
    | case1 =>
      obtain rfl := Option.some.inj h
      rfl
    | case2 => cases h
    | case3 a b rest ih =>
      simp only [Option.bind_eq_bind, Option.bind_eq_some_iff, Option.pure_def,
        Option.some.injEq] at h
      obtain ⟨hi, first, lo, second, tail, read, rfl⟩ := h
      have byte := hexOfByte_ofNat (hexValue?_lt first) (hexValue?_lt second)
      have others : tail.flatMap hexOfByte = rest.map asciiLowerChar := ih read
      rw [hexOfBytes, List.flatMap_cons, byte, others, hexDigit_of_hexValue? first,
        hexDigit_of_hexValue? second]
      rfl
  · intro h
    -- Reading ignores case, so it may as well read what was written.
    rw [← bytesOfHex?_map, ← h, bytesOfHex?_hexOfBytes]

theorem isHexDigit_of_bytesOfHex? (h : bytesOfHex? cs = some bs) : ∀ c ∈ cs, IsHexDigit c := by
  intro c hc
  have written := bytesOfHex?_eq_some_iff.mp h
  have small : asciiLowerChar c ∈ hexOfBytes bs := written ▸ List.mem_map_of_mem hc
  exact isHexDigit_asciiLowerChar_iff.mp (.inl (isSmallHexDigit_of_mem_hexOfBytes small))

/-- Digits in even number are those of some bytes. -/
theorem exists_bytesOfHex? {n : Nat} (length : cs.length = 2 * n) (digits : ∀ c ∈ cs, IsHexDigit c) :
    ∃ bs, bytesOfHex? cs = some bs := by
  fun_induction bytesOfHex? cs generalizing n with
  | case1 => exact ⟨[], rfl⟩
  | case2 c =>
    rw [List.length_singleton] at length
    omega
  | case3 a b rest ih =>
    obtain ⟨first, digits⟩ := List.forall_mem_cons.mp digits
    obtain ⟨second, digits⟩ := List.forall_mem_cons.mp digits
    obtain ⟨hi, first⟩ := Option.isSome_iff_exists.mp (hexValue?_isSome_iff.mpr first)
    obtain ⟨lo, second⟩ := Option.isSome_iff_exists.mp (hexValue?_isSome_iff.mpr second)
    simp only [List.length_cons] at length
    have even : rest.length = 2 * (n - 1) := by omega
    obtain ⟨bs, read⟩ := ih even digits
    rw [first, second, read]
    exact ⟨_, rfl⟩

end TrafficTrace.Text
