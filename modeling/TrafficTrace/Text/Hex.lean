/-! Hexadecimal digits and lists of bytes written with two lower case digits each. -/
namespace TrafficTrace.Text

/-- The lower case digit of a number below sixteen. -/
def hexDigit (n : Nat) : Char := if n < 10 then Char.ofNat (48 + n) else Char.ofNat (87 + n)

/-- The value of a digit in either case. -/
def hexValue? (c : Char) : Option Nat :=
  if '0' ≤ c ∧ c ≤ '9' then some (c.toNat - 48)
  else if 'a' ≤ c ∧ c ≤ 'f' then some (c.toNat - 87)
  else if 'A' ≤ c ∧ c ≤ 'F' then some (c.toNat - 55)
  else none

def hexOfByte (b : UInt8) : List Char := [hexDigit (b.toNat / 16), hexDigit (b.toNat % 16)]

def hexOfBytes (bs : List UInt8) : List Char := bs.flatMap hexOfByte

/-- Reads pairs of digits; an odd digit or any other character is refused. -/
def bytesOfHex? : List Char → Option (List UInt8)
  | [] => some []
  | [_] => none
  | a :: b :: rest => do
    let hi ← hexValue? a
    let lo ← hexValue? b
    let tail ← bytesOfHex? rest
    return UInt8.ofNat (hi * 16 + lo) :: tail

theorem hexValue?_hexDigit {n : Nat} (h : n < 16) : hexValue? (hexDigit n) = some n := by
  revert n; decide

theorem hexValue?_lt {c : Char} {n : Nat} (h : hexValue? c = some n) : n < 16 := by
  have toNat_le {a b : Char} : a ≤ b ↔ a.toNat ≤ b.toNat := Iff.rfl
  unfold hexValue? at h
  simp only [toNat_le] at h
  split at h
  · rename_i hc
    have := hc.2; simp at this h; omega
  · split at h
    · rename_i hc
      have := hc.2; simp at this h; omega
    · split at h
      · rename_i hc
        have := hc.2; simp at this h; omega
      · cases h

@[simp] theorem bytesOfHex?_hexOfBytes (bs : List UInt8) :
    bytesOfHex? (hexOfBytes bs) = some bs := by
  induction bs with
  | nil => rfl
  | cons b bs ih =>
    have hb : b.toNat < 256 := b.toNat_lt
    have h₁ := hexValue?_hexDigit (n := b.toNat / 16) (by omega)
    have h₂ := hexValue?_hexDigit (n := b.toNat % 16) (by omega)
    have h₃ : UInt8.ofNat (b.toNat / 16 * 16 + b.toNat % 16) = b := by
      have : b.toNat / 16 * 16 + b.toNat % 16 = b.toNat := by omega
      rw [this, UInt8.ofNat_toNat]
    simp only [UInt8.ofNat_add, UInt8.ofNat_mul] at h₃
    have ih' : bytesOfHex? (List.flatMap hexOfByte bs) = some bs := ih
    simp [hexOfBytes, hexOfByte, bytesOfHex?, h₁, h₂, ih']
    exact h₃

theorem length_hexOfBytes (bs : List UInt8) : (hexOfBytes bs).length = 2 * bs.length := by
  induction bs with
  | nil => rfl
  | cons b bs ih =>
    simp only [hexOfBytes, List.flatMap_cons, hexOfByte, List.length_append, List.length_cons,
      List.length_nil] at ih ⊢
    omega

/-- A number in lower case hexadecimal, without leading zeros. -/
def hexOfNat (n : Nat) : String := String.ofList (Nat.toDigits 16 n)

end TrafficTrace.Text
