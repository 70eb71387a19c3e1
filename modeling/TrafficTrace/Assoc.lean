/-! Values under keys in no particular order, at most one for each key. -/
namespace TrafficTrace

structure Assoc (κ α : Type) where
  entries : List (κ × α)
  nodup : (entries.map Prod.fst).Nodup

namespace Assoc

variable {κ α : Type} [DecidableEq κ]

def empty : Assoc κ α := ⟨[], List.nodup_nil⟩

def get? (m : Assoc κ α) (key : κ) : Option α := m.entries.lookup key

def size (m : Assoc κ α) : Nat := m.entries.length

/-- Keeps the entries that satisfy a condition. -/
def filter (m : Assoc κ α) (p : κ × α → Bool) : Assoc κ α :=
  ⟨m.entries.filter p, m.nodup.sublist (List.filter_sublist.map _)⟩

def erase (m : Assoc κ α) (key : κ) : Assoc κ α := m.filter (·.1 ≠ key)

theorem not_mem_erase (m : Assoc κ α) (key : κ) : key ∉ (m.erase key).entries.map Prod.fst := by
  simp [erase, filter]

/-- Puts a value under a key; an earlier value there is replaced. -/
def put (m : Assoc κ α) (key : κ) (value : α) : Assoc κ α :=
  ⟨(key, value) :: (m.erase key).entries, List.nodup_cons.2 ⟨m.not_mem_erase key, (m.erase key).nodup⟩⟩

theorem lookup_cons_eq (key k : κ) (value : α) (entries : List (κ × α)) :
    ((key, value) :: entries).lookup k = if k = key then some value else entries.lookup k := by
  rw [List.lookup_cons]
  by_cases h : k = key
  · simp [h]
  · simp [h, beq_eq_false_iff_ne.2 h]

theorem lookup_filter_ne (entries : List (κ × α)) (key k : κ) :
    (entries.filter (·.1 ≠ key)).lookup k = if k = key then none else entries.lookup k := by
  induction entries with
  | nil => simp
  | cons e es ih =>
    obtain ⟨k', v⟩ := e
    by_cases h : k' = key
    · subst h
      rw [List.filter_cons_of_neg (by simp), ih, lookup_cons_eq]
      by_cases hk : k = k' <;> simp [hk]
    · rw [List.filter_cons_of_pos (by simpa using h), lookup_cons_eq, lookup_cons_eq, ih]
      by_cases hk : k = k'
      · subst hk; simp [h]
      · simp [hk]

@[simp] theorem get?_empty (k : κ) : (empty : Assoc κ α).get? k = none := rfl

@[simp] theorem get?_erase (m : Assoc κ α) (key k : κ) :
    (m.erase key).get? k = if k = key then none else m.get? k :=
  lookup_filter_ne m.entries key k

@[simp] theorem get?_put (m : Assoc κ α) (key k : κ) (value : α) :
    (m.put key value).get? k = if k = key then some value else m.get? k := by
  show ((key, value) :: (m.erase key).entries).lookup k = _
  rw [lookup_cons_eq]
  by_cases h : k = key
  · simp [h]
  · have := get?_erase m key k
    simp only [h, if_false] at this ⊢
    exact this

end Assoc

end TrafficTrace
