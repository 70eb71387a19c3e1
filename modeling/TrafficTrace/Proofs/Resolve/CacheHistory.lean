import TrafficTrace.Resolve.Cache

/-!
# A cache and the writes it has seen

The last write under each key, kept without end, says all that a cache can answer: the value is
served while it is young enough, and what was dropped was too old to be served. Time may pass
between any two operations.
-/
namespace TrafficTrace

namespace Assoc

variable {κ α : Type} [DecidableEq κ]

theorem lookup_eq_none_of_not_mem {key : κ} {entries : List (κ × α)}
    (h : key ∉ entries.map Prod.fst) : entries.lookup key = none := by
  rw [List.lookup_eq_none_iff]
  rintro ⟨k, v⟩ hp
  rw [bne_iff_ne]
  rintro rfl
  exact h (List.mem_map_of_mem hp)

theorem lookup_filter {key : κ} (p : κ × α → Bool) {entries : List (κ × α)}
    (nodup : (entries.map Prod.fst).Nodup) :
    (entries.filter p).lookup key = (entries.lookup key).filter fun v => p (key, v) := by
  induction entries with
  | nil => rfl
  | cons e es ih =>
    obtain ⟨k, v⟩ := e
    rw [List.map_cons, List.nodup_cons] at nodup
    rw [lookup_cons_eq, List.filter_cons]
    by_cases hk : key = k
    · subst hk
      rw [if_pos rfl, Option.filter_some]
      split
      · rw [lookup_cons_eq, if_pos rfl]
      · rw [ih nodup.2, lookup_eq_none_of_not_mem nodup.1]
        rfl
    · rw [if_neg hk, ← ih nodup.2]
      split
      · rw [lookup_cons_eq, if_neg hk]
      · rfl

theorem get?_filter (m : Assoc κ α) (p : κ × α → Bool) (key : κ) :
    (m.filter p).get? key = (m.get? key).filter fun v => p (key, v) :=
  lookup_filter p m.nodup

theorem mem_keys_iff {m : Assoc κ α} {key : κ} :
    key ∈ m.entries.map Prod.fst ↔ ∃ value, m.get? key = some value := by
  constructor
  · intro listed
    cases found : m.get? key with
    | some value => exact ⟨value, rfl⟩
    | none =>
      obtain ⟨⟨k, value⟩, member, rfl⟩ := List.mem_map.mp listed
      have other := List.lookup_eq_none_iff.mp found _ member
      simp at other
  · rintro ⟨value, found⟩
    refine Decidable.byContradiction fun absent => ?_
    rw [get?, lookup_eq_none_of_not_mem absent] at found
    cases found

end Assoc

namespace Cache

variable {κ α : Type} [DecidableEq κ]

/-- Of the values under one key the later counts. -/
def lastUnder (values : List (κ × α)) (key : κ) : Option α := values.reverse.lookup key

@[simp] theorem lastUnder_nil (key : κ) : lastUnder ([] : List (κ × α)) key = none := rfl

theorem lastUnder_cons (v : κ × α) (rest : List (κ × α)) (key : κ) :
    lastUnder (v :: rest) key = (lastUnder rest key).or (if key = v.1 then some v.2 else none) := by
  rw [lastUnder, List.reverse_cons, List.lookup_append, Assoc.lookup_cons_eq]
  rfl

theorem lastUnder_eq (values : List (κ × α)) (key : κ) :
    lastUnder values key = (values.filter fun v => v.1 = key).getLast?.map Prod.snd := by
  induction values with
  | nil => rfl
  | cons v rest ih =>
    rw [lastUnder_cons, ih, List.filter_cons]
    by_cases same : v.1 = key
    · subst same
      cases rest.filter fun w => w.1 = v.1 <;> simp [List.getLast?_cons]
    · have apart : ¬ key = v.1 := fun eq => same eq.symm
      simp [same, apart]

/-- `last` is the last write under each key. An entry is such a write, and one that is gone is past
the hard limit. -/
structure Reflects (fresh : Duration) (c : Cache κ α) (now : Instant)
    (last : κ → Option (Instant × α)) : Prop where
  window : c.fresh = fresh
  outlives : fresh.nanos ≤ c.hard.nanos
  held : ∀ key e, c.entries.get? key = some e → last key = some (e.written, e.value)
  dropped : ∀ key t value, last key = some (t, value) → c.entries.get? key = none →
    c.hard.nanos ≤ now - t

theorem reflects_empty (fresh hard : Duration) (now : Instant) :
    Reflects fresh (empty fresh hard : Cache κ α) now fun _ => none where
  window := rfl
  outlives := by
    show fresh.nanos ≤ (max hard fresh).nanos
    rw [Duration.nanos_max]
    exact Nat.le_max_right _ _
  held := by simp [empty]
  dropped := by simp

namespace Reflects

variable {fresh : Duration} {c : Cache κ α} {now : Instant} {last : κ → Option (Instant × α)}

/-- The cache answers with the last write while it is young, and with nothing else. -/
theorem get?_eq (h : Reflects fresh c now last) (key : κ) :
    c.get? now key =
      (last key).bind fun w => if now - w.1 < fresh.nanos then some w.2 else none := by
  rw [Cache.get?]
  cases entry : c.entries.get? key with
  | some e =>
    rw [h.held key e entry]
    simp [Instant.within, h.window]
  | none =>
    cases write : last key with
    | none => rfl
    | some w =>
      obtain ⟨t, value⟩ := w
      -- what was dropped is past the hard limit, and the window is not longer than that
      have old : c.hard.nanos ≤ now - t := h.dropped key t value write entry
      have stale : ¬ now - t < fresh.nanos := Nat.not_lt.mpr (Nat.le_trans h.outlives old)
      simp [stale]

theorem young_of_hit (h : Reflects fresh c now last) {key : κ} {value : α}
    (hit : c.get? now key = some value) :
    ∃ t, last key = some (t, value) ∧ now - t < fresh.nanos := by
  rw [h.get?_eq, Option.bind_eq_some_iff] at hit
  obtain ⟨⟨t, v⟩, write, served⟩ := hit
  split at served
  · rename_i young
    cases served
    exact ⟨t, write, young⟩
  · cases served

theorem old_of_miss (h : Reflects fresh c now last) {key : κ} (miss : c.get? now key = none)
    {t : Instant} {value : α} (write : last key = some (t, value)) :
    fresh.nanos ≤ now - t := by
  rw [h.get?_eq, write] at miss
  by_cases young : now - t < fresh.nanos
  · simp [young] at miss
  · exact Nat.not_lt.mp young

theorem wait (h : Reflects fresh c now last) {later : Instant} (le : now ≤ later) :
    Reflects fresh c later last where
  window := h.window
  outlives := h.outlives
  held := h.held
  dropped key t value write gone :=
    Nat.le_trans (h.dropped key t value write gone) (Nat.sub_le_sub_right le t)

theorem put (h : Reflects fresh c now last) (key : κ) (value : α) :
    Reflects fresh (c.put now key value) now
      fun k => if k = key then some (now, value) else last k where
  window := h.window
  outlives := h.outlives
  held k e entry := by
    rw [Cache.put, Assoc.get?_put] at entry
    split at entry
    · rename_i same
      rw [if_pos same]
      cases entry
      rfl
    · rename_i other
      rw [if_neg other]
      exact h.held k e entry
  dropped k t v write gone := by
    rw [Cache.put, Assoc.get?_put] at gone
    split at gone
    · cases gone
    · rename_i other
      rw [if_neg other] at write
      exact h.dropped k t v write gone

theorem prune (h : Reflects fresh c now last) : Reflects fresh (c.prune now) now last where
  window := h.window
  outlives := h.outlives
  held k e entry := by
    rw [Cache.prune, Assoc.get?_filter, Option.filter_eq_some_iff] at entry
    exact h.held k e entry.1
  dropped k t v write gone := by
    rw [Cache.prune, Assoc.get?_filter, Option.filter_eq_none_iff] at gone
    cases entry : c.entries.get? k with
    | none => exact h.dropped k t v write entry
    | some e =>
      -- the entry was there before and is this write, so pruning found it too old
      have same : some (t, v) = some (e.written, e.value) := write ▸ h.held k e entry
      have old := gone e entry
      simp only [Instant.within, decide_eq_true_eq, Nat.not_lt] at old
      cases same
      exact old

theorem puts (h : Reflects fresh c now last) (values : List (κ × α)) :
    Reflects fresh (values.foldl (fun c v => c.put now v.1 v.2) c) now
      fun key => ((lastUnder values key).map (now, ·)).or (last key) := by
  induction values generalizing c last with
  | nil => exact h
  | cons v rest ih =>
    rw [List.foldl_cons]
    refine Eq.mp (congrArg _ (funext fun key => ?_)) (ih (h.put v.1 v.2))
    rw [lastUnder_cons]
    cases lastUnder rest key with
    | some later => rfl
    | none => by_cases same : key = v.1 <;> simp [same]

theorem populate (h : Reflects fresh c now last) (values : List (κ × α)) :
    Reflects fresh (c.populate now values) now
      fun key => ((lastUnder values key).map (now, ·)).or (last key) :=
  (h.puts values).prune

theorem clear (h : Reflects fresh c now last) : Reflects fresh c.clear now fun _ => none where
  window := h.window
  outlives := h.outlives
  held := by simp [Cache.clear]
  dropped := by simp

end Reflects

end Cache

end TrafficTrace
