import Mathlib.Logic.Basic
import TrafficTrace.Text.Blank
import TrafficTrace.Text.Utf8

/-!
# Where one text ends and the next begins

A text whose characters are all of one kind ends where a character of another kind follows, and
lines end at their line ends.
-/
namespace TrafficTrace.Text

variable {α β : Type}

/-- What follows a text of characters of one kind. -/
def Ends (p : α → Bool) (rest : List α) : Prop := ∀ c ∈ rest.head?, p c = false

theorem ends_nil (p : α → Bool) : Ends p [] := nofun

theorem ends_cons {p : α → Bool} {c : α} (h : p c = false) (rest : List α) :
    Ends p (c :: rest) := by
  rintro d ⟨⟩
  exact h

instance (p : α → Bool) (l : List α) : Decidable (Ends p l) :=
  decidable_of_iff (l.head?.all fun c => !p c) (by cases l <;> simp [Ends])

theorem ends_of_forall {p : α → Bool} {l : List α} (h : ∀ c ∈ l, p c = false) : Ends p l := by
  cases l with
  | nil => exact ends_nil p
  | cons c l => exact ends_cons (h c List.mem_cons_self) l

theorem Ends.append {p : α → Bool} {l r : List α} (hl : Ends p l) (hr : Ends p r) :
    Ends p (l ++ r) := by
  cases l with
  | nil => exact hr
  | cons c l => exact ends_cons (hl c rfl) (l ++ r)

theorem takeWhile_append_of_ends {p : α → Bool} {l r : List α} (hl : ∀ c ∈ l, p c = true)
    (hr : Ends p r) : (l ++ r).takeWhile p = l := by
  rw [List.takeWhile_append_of_pos hl]
  cases r with
  | nil => simp
  | cons c r => simp [hr c rfl]

theorem dropWhile_append_of_ends {p : α → Bool} {l r : List α} (hl : ∀ c ∈ l, p c = true)
    (hr : Ends p r) : (l ++ r).dropWhile p = r := by
  rw [List.dropWhile_append_of_pos hl]
  cases r with
  | nil => rfl
  | cons c r => simp [hr c rfl]

/-- Two texts of one kind that begin the same list are the same. -/
theorem append_inj_of_ends {p : α → Bool} {l m r s : List α} (hl : ∀ c ∈ l, p c = true)
    (hm : ∀ c ∈ m, p c = true) (hr : Ends p r) (hs : Ends p s) (h : l ++ r = m ++ s) :
    l = m ∧ r = s := by
  have before := congrArg (List.takeWhile p) h
  have after := congrArg (List.dropWhile p) h
  rw [takeWhile_append_of_ends hl hr, takeWhile_append_of_ends hm hs] at before
  rw [dropWhile_append_of_ends hl hr, dropWhile_append_of_ends hm hs] at after
  exact ⟨before, after⟩

/-- Lines are told apart: none holds the mark that ends it. -/
theorem map_eq_of_flatMap_lines [DecidableEq α] (line : β → List α) (mark : α)
    (plain : ∀ x, mark ∉ line x) {xs ys : List β}
    (h : (xs.flatMap fun x => line x ++ [mark]) = ys.flatMap fun y => line y ++ [mark]) :
    xs.map line = ys.map line := by
  have kind (x : β) : ∀ c ∈ line x, decide (c ≠ mark) = true := by
    intro c hc
    rw [decide_eq_true_eq]
    rintro rfl
    exact plain x hc
  have ends (rest : List α) : Ends (fun c => decide (c ≠ mark)) (mark :: rest) :=
    ends_cons (by simp) rest
  induction xs generalizing ys with
  | nil =>
    cases ys with
    | nil => rfl
    | cons y ys => simp at h
  | cons x xs ih =>
    cases ys with
    | nil => simp at h
    | cons y ys =>
      simp only [List.flatMap_cons, List.append_assoc, List.singleton_append] at h
      obtain ⟨same, rest⟩ := append_inj_of_ends (kind x) (kind y) (ends _) (ends _) h
      obtain ⟨-, rest⟩ := List.cons_eq_cons.mp rest
      rw [List.map_cons, List.map_cons, same, ih rest]

theorem isBlank_eq_false_of_isDigit {c : Char} (h : c.isDigit = true) : isBlank c = false := by
  obtain ⟨low, high⟩ := Char.isDigit_iff_toNat.mp h
  have low : 48 ≤ c.toNat := low
  have high : c.toNat ≤ 57 := high
  simp only [isBlank, Bool.or_eq_false_iff, Bool.and_eq_false_iff, decide_eq_false_iff_not,
    beq_eq_false_iff_ne]
  omega

/-! ### Bytes -/

theorem byteArray_toList_loop (bs : ByteArray) (i : Nat) (r : List UInt8) :
    ByteArray.toList.loop bs i r = r.reverse ++ bs.data.toList.drop i := by
  induction left : bs.size - i generalizing i r with
  | zero =>
    have size : bs.data.toList.length ≤ i := by
      rw [Array.length_toList]
      exact Nat.le_of_sub_eq_zero left
    rw [ByteArray.toList.loop, if_neg (by omega), List.drop_eq_nil_of_le size, List.append_nil]
  | succ left ih =>
    have inside : i < bs.data.toList.length := by
      rw [Array.length_toList]
      exact Nat.lt_of_sub_eq_succ ‹_›
    have byte : bs.get! i = bs.data.toList[i] := by
      rw [ByteArray.get!, Array.getElem_toList]
      exact getElem!_pos bs.data i _
    rw [ByteArray.toList.loop, if_pos (by omega), ih (i + 1) _ (by omega), byte,
      List.drop_eq_getElem_cons inside]
    simp

/-- The bytes of a text are those of its characters. -/
theorem toList_toUTF8 (s : String) : s.toUTF8.toList = utf8 s.toList := by
  have bytes : s.toUTF8.data.toList = utf8 s.toList := by
    have encoded : s.toUTF8 = s.toList.utf8Encode :=
      calc s.toUTF8 = (String.ofList s.toList).toByteArray := by rw [String.ofList_toList]; rfl
        _ = s.toList.utf8Encode := String.toByteArray_ofList
    rw [encoded, List.utf8Encode, List.toList_data_toByteArray]
    rfl
  rw [ByteArray.toList, byteArray_toList_loop, List.reverse_nil, List.nil_append, List.drop_zero,
    bytes]

theorem utf8ByteSize_cons (c : Char) (cs : List Char) :
    (String.ofList (c :: cs)).utf8ByteSize = c.utf8Size + (String.ofList cs).utf8ByteSize := by
  have split : String.ofList (c :: cs) = String.singleton c ++ String.ofList cs := by
    apply String.toList_inj.mp
    simp
  rw [split, String.utf8ByteSize_append, String.utf8ByteSize_singleton]

/-- Every character takes a byte or more. -/
theorem length_le_utf8ByteSize (cs : List Char) :
    cs.length ≤ (String.ofList cs).utf8ByteSize := by
  induction cs with
  | nil => exact Nat.zero_le _
  | cons c cs ih =>
    have first := c.utf8Size_pos
    rw [utf8ByteSize_cons, List.length_cons]
    omega

theorem utf8ByteSize_of_ascii {cs : List Char} (h : ∀ c ∈ cs, c.toNat < 128) :
    (String.ofList cs).utf8ByteSize = cs.length := by
  induction cs with
  | nil => rfl
  | cons c cs ih =>
    obtain ⟨first, rest⟩ := List.forall_mem_cons.mp h
    have one : c.utf8Size = 1 := Char.utf8Size_eq_one_iff.mpr (Nat.le_of_lt_succ first)
    rw [utf8ByteSize_cons, one, ih rest, List.length_cons]
    omega

theorem utf8_injective {cs ds : List Char} (h : utf8 cs = utf8 ds) : cs = ds := by
  have bytes : (String.ofList cs).toByteArray = (String.ofList ds).toByteArray := by
    rw [String.toByteArray_ofList, String.toByteArray_ofList, List.utf8Encode, List.utf8Encode]
    exact congrArg List.toByteArray h
  exact String.ofList_injective (String.toByteArray_inj.mp bytes)

end TrafficTrace.Text
