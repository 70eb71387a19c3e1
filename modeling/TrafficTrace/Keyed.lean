/-! Values under text keys, as lists in ascending order of the keys. -/
namespace TrafficTrace.Keyed

variable {α : Type}

/-- Puts a value under a key; an earlier value there is replaced. -/
def insert (key : String) (value : α) :
    List (String × α) → List (String × α)
  | [] => [(key, value)]
  | (k, v) :: rest =>
    if key < k then (key, value) :: (k, v) :: rest
    else if key = k then (key, value) :: rest
    else (k, v) :: insert key value rest

theorem fst_mem_insert {key : String} {value : α} {ms : List (String × α)}
    {m : String × α} (h : m ∈ insert key value ms) : m = (key, value) ∨ m ∈ ms := by
  induction ms with
  | nil => simpa [insert] using h
  | cons a rest ih =>
    obtain ⟨k, v⟩ := a
    unfold insert at h
    split at h
    · simpa using h
    · split at h
      · rcases List.mem_cons.1 h with h | h
        · exact .inl h
        · exact .inr (List.mem_cons_of_mem _ h)
      · rcases List.mem_cons.1 h with h | h
        · exact .inr (h ▸ List.mem_cons_self)
        · rcases ih h with h | h
          · exact .inl h
          · exact .inr (List.mem_cons_of_mem _ h)

/-- The keys stay in ascending order. -/
theorem pairwise_insert (key : String) (value : α) {ms : List (String × α)}
    (h : ms.Pairwise (·.1 < ·.1)) : (insert key value ms).Pairwise (·.1 < ·.1) := by
  induction ms with
  | nil => simp [insert]
  | cons a rest ih =>
    obtain ⟨k, v⟩ := a
    obtain ⟨ha, hr⟩ := List.pairwise_cons.1 h
    unfold insert
    split
    · rename_i hk
      refine List.pairwise_cons.2 ⟨fun m hm => ?_, h⟩
      rcases List.mem_cons.1 hm with rfl | hm
      · exact hk
      · exact String.lt_trans hk (ha m hm)
    · split
      · rename_i _ hk
        subst hk
        exact List.pairwise_cons.2 ⟨ha, hr⟩
      · rename_i h₁ h₂
        refine List.pairwise_cons.2 ⟨fun m hm => ?_, ih hr⟩
        rcases fst_mem_insert hm with rfl | hm
        · have h₃ : k ≤ key := String.not_lt.1 h₁
          rcases Decidable.em (k < key) with h₄ | h₄
          · exact h₄
          · exact absurd (String.le_antisymm (String.not_lt.1 h₄) h₃) h₂
        · exact ha m hm

theorem lookup_insert (key : String) (value : α) (ms : List (String × α)) (k : String) :
    (insert key value ms).lookup k = if k = key then some value else ms.lookup k := by
  induction ms with
  | nil => simp only [insert, List.lookup_cons, List.lookup_nil]; split <;> simp_all
  | cons a rest ih =>
    obtain ⟨k', v⟩ := a
    unfold insert
    split
    · simp only [List.lookup_cons]; split <;> simp_all
    · split
      · rename_i _ h; subst h
        simp only [List.lookup_cons]; split <;> simp_all
      · rename_i _ h
        simp only [List.lookup_cons, ih]
        split
        · rename_i h'; split
          · rename_i h''; simp_all
          · rfl
        · rfl

/-- The pairs in order of their keys; of two with one key the later stays. -/
def ofList (ms : List (String × α)) : List (String × α) :=
  ms.foldl (fun acc m => insert m.1 m.2 acc) []

theorem pairwise_ofList (ms : List (String × α)) :
    (ofList ms).Pairwise (·.1 < ·.1) := by
  have (acc : List (String × α)) (h : acc.Pairwise (·.1 < ·.1)) :
      (ms.foldl (fun acc m => insert m.1 m.2 acc) acc).Pairwise (·.1 < ·.1) := by
    induction ms generalizing acc with
    | nil => exact h
    | cons m ms ih => exact ih _ (pairwise_insert _ _ h)
  exact this [] List.Pairwise.nil

/-- Changes the value under a key, which starts as `initial`. -/
def update (key : String) (initial : α) (f : α → α) (ms : List (String × α)) :
    List (String × α) :=
  insert key (f ((ms.lookup key).getD initial)) ms

end TrafficTrace.Keyed
