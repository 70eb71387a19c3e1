import TrafficTrace.Document.Node

/-!
# How far a document extends

The integers of a document that was read have 64 bits, and its containers are nested no deeper than
the reader allows. A value that is written back may use no more than that.
-/
namespace TrafficTrace.Document.Node

/-- The integers that 64 bits hold, with or without a sign. -/
def IsWord (n : Int) : Prop := -9223372036854775808 ≤ n ∧ n < 18446744073709551616

instance (n : Int) : Decidable (IsWord n) := inferInstanceAs (Decidable (_ ∧ _))

mutual
/-- All integers have 64 bits, and the containers leave no more than the room. What is nested too
deeply to be read is one leaf. -/
def Within : Node → Nat → Prop
  | .number (some (.int n)), _ => IsWord n
  | .array items _, room | .sequence items _, room => 0 < room ∧ WithinItems items (room - 1)
  | .object ms _, room => 0 < room ∧ WithinMembers ms (room - 1)
  | _, _ => True

def WithinItems : List Node → Nat → Prop
  | [], _ => True
  | n :: ns, room => Within n room ∧ WithinItems ns room

def WithinMembers : List (Option String × Node) → Nat → Prop
  | [], _ => True
  | (_, n) :: ms, room => Within n room ∧ WithinMembers ms room
end

variable {room : Nat} {closed : Bool}

theorem withinItems_iff {ns : List Node} : WithinItems ns room ↔ ∀ n ∈ ns, n.Within room := by
  induction ns with
  | nil => simp [WithinItems]
  | cons n ns ih => rw [WithinItems, ih, List.forall_mem_cons]

theorem withinMembers_iff {ms : List (Option String × Node)} :
    WithinMembers ms room ↔ ∀ m ∈ ms, m.2.Within room := by
  induction ms with
  | nil => simp [WithinMembers]
  | cons m ms ih => rw [WithinMembers, ih, List.forall_mem_cons]

theorem within_array_iff {ns : List Node} :
    (array ns closed).Within room ↔ 0 < room ∧ ∀ n ∈ ns, n.Within (room - 1) := by
  rw [Within, withinItems_iff]

theorem within_sequence_iff {ns : List Node} :
    (sequence ns closed).Within room ↔ 0 < room ∧ ∀ n ∈ ns, n.Within (room - 1) := by
  rw [Within, withinItems_iff]

theorem within_object_iff {ms : List (Option String × Node)} :
    (object ms closed).Within room ↔ 0 < room ∧ ∀ m ∈ ms, m.2.Within (room - 1) := by
  rw [Within, withinMembers_iff]

theorem ofJsonItems_eq (js : List Json) : ofJsonItems js = js.map ofJson := by
  induction js with
  | nil => rfl
  | cons j js ih => rw [ofJsonItems, ih, List.map_cons]

theorem ofJsonMembers_eq (ms : List (String × Json)) :
    ofJsonMembers ms = ms.map fun m => (some m.1, ofJson m.2) := by
  induction ms with
  | nil => rfl
  | cons m ms ih => rw [ofJsonMembers, ih, List.map_cons]

theorem within_ofJson_arr_iff {js : List Json} :
    (ofJson (.arr js)).Within room ↔ 0 < room ∧ ∀ j ∈ js, (ofJson j).Within (room - 1) := by
  rw [ofJson, within_array_iff, ofJsonItems_eq, List.forall_mem_map]

theorem within_ofJson_obj_iff {ms : List (String × Json)} :
    (ofJson (.obj ms)).Within room ↔ 0 < room ∧ ∀ m ∈ ms, (ofJson m.2).Within (room - 1) := by
  rw [ofJson, within_object_iff, ofJsonMembers_eq, List.forall_mem_map]

end TrafficTrace.Document.Node
