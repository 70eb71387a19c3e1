import Mathlib.Data.List.Infix
import Mathlib.Data.List.Induction
import TrafficTrace.Proofs.Resolve.CacheHistory

/-!
# What a cache answers, and what it holds

Entries are written, dropped and looked up while time passes. The entries that are held are the last
writes that every pruning since has found young (`Mirrors`). One that was pruned is too old to be
served, so that no lookup can tell whether anything was pruned; only the size can.
-/
namespace TrafficTrace.Cache

variable {κ α : Type} [DecidableEq κ]

namespace Action

/-- The value that an action leaves under a key. -/
def write? (a : Action κ α) (key : κ) : Option α :=
  match a with
  | .put k value => if key = k then some value else none
  | .populate values => lastUnder values key
  | .invalidate _ | .prune | .clear => none

/-- The action drops a key, however young its entry is. -/
def removes (a : Action κ α) (key : κ) : Bool :=
  match a with
  | .invalidate k => key = k
  | .clear => true
  | .put _ _ | .populate _ | .prune => false

/-- The action drops every entry that is too old. -/
def prunes : Action κ α → Bool
  | .populate _ | .prune => true
  | .put _ _ | .invalidate _ | .clear => false

/-- The action says something about a key. Pruning says nothing about any. -/
def mentions (a : Action κ α) (key : κ) : Bool :=
  match a with
  | .put k _ | .invalidate k => key = k
  | .populate values => values.any fun v => v.1 = key
  | .prune => false
  | .clear => true

end Action

/-- What happens to a cache in use. -/
inductive Step (κ α : Type) where
  | wait (nanos : Nat)
  | act (a : Action κ α)
  | get (key : κ)

namespace Step

def nanos : Step κ α → Nat
  | wait nanos => nanos
  | act _ | get _ => 0

def write? (x : Step κ α) (key : κ) : Option α :=
  match x with
  | act a => a.write? key
  | wait _ | get _ => none

def removes (x : Step κ α) (key : κ) : Bool :=
  match x with
  | act a => a.removes key
  | wait _ | get _ => false

def prunes : Step κ α → Bool
  | act a => a.prunes
  | wait _ | get _ => false

/-- Time passes, something is looked up, or an action other than pruning mentions the key. -/
def concerns (x : Step κ α) (key : κ) : Bool :=
  match x with
  | act a => a.mentions key
  | wait _ | get _ => true

end Step

/-- A cache and the clock that it reads. -/
structure Clocked (κ α : Type) where
  now : Instant
  cache : Cache κ α

namespace Clocked

def start (fresh hard : Duration) : Clocked κ α := ⟨0, .empty fresh hard⟩

def get? (x : Clocked κ α) (key : κ) : Option α := x.cache.get? x.now key

def step (x : Clocked κ α) : Step κ α → Clocked κ α
  | .wait nanos => { x with now := x.now + nanos }
  | .act a => { x with cache := x.cache.step x.now a }
  | .get _ => x

def run (x : Clocked κ α) (steps : List (Step κ α)) : Clocked κ α := steps.foldl step x

/-- What a step tells of a key. -/
def told (x : Clocked κ α) (key : κ) : Step κ α → List (Option α)
  | .get k => if k = key then [x.get? key] else []
  | .wait _ | .act _ => []

/-- The answers to the lookups of a key, in their order. -/
def answers (key : κ) (x : Clocked κ α) : List (Step κ α) → List (Option α)
  | [] => []
  | y :: rest => x.told key y ++ answers key (x.step y) rest

end Clocked

/-- The time that steps take. -/
def elapsed : List (Step κ α) → Nat
  | [] => 0
  | y :: l => y.nanos + elapsed l

/-- `write` is the last step that writes a key, `after` is what came after it, and none of this
drops the key on purpose. -/
structure LastWrite (steps : List (Step κ α)) (key : κ) (value : α) (write : Step κ α)
    (after : List (Step κ α)) : Prop where
  placed : ∃ before, steps = before ++ write :: after
  wrote : write.write? key = some value
  kept : ∀ y ∈ after, y.write? key = none ∧ y.removes key = false

/-- Whenever one of the steps prunes, less than the limit has passed since the first of them. -/
def Outlasts (limit : Nat) (steps : List (Step κ α)) : Prop :=
  ∀ before y, before ++ [y] <+: steps → y.prunes = true → elapsed before < limit

/-! ### One step more -/

section

omit [DecidableEq κ]

@[simp] theorem elapsed_nil : elapsed ([] : List (Step κ α)) = 0 := rfl

@[simp] theorem elapsed_cons (y : Step κ α) (l : List (Step κ α)) :
    elapsed (y :: l) = y.nanos + elapsed l := rfl

@[simp] theorem elapsed_append (l m : List (Step κ α)) :
    elapsed (l ++ m) = elapsed l + elapsed m := by
  induction l with
  | nil => simp
  | cons y l ih => rw [List.cons_append, elapsed_cons, elapsed_cons, ih, Nat.add_assoc]

theorem elapsed_le_of_prefix {l m : List (Step κ α)} (h : l <+: m) : elapsed l ≤ elapsed m := by
  obtain ⟨rest, rfl⟩ := h
  rw [elapsed_append]
  exact Nat.le_add_right _ _

theorem outlasts_nil (limit : Nat) : Outlasts limit ([] : List (Step κ α)) := by
  intro before z hz
  simp at hz

theorem outlasts_concat {limit : Nat} {l : List (Step κ α)} {y : Step κ α} :
    Outlasts limit (l ++ [y]) ↔ Outlasts limit l ∧ (y.prunes = true → elapsed l < limit) := by
  constructor
  · intro h
    refine ⟨fun before z hz => h before z (hz.trans (List.prefix_append l [y])), fun prunes => ?_⟩
    exact h l y (List.prefix_refl _) prunes
  · rintro ⟨earlier, last⟩ before z hz prunes
    rcases List.prefix_concat_iff.mp hz with whole | part
    · obtain ⟨rfl, same⟩ := List.append_inj' whole rfl
      cases same
      exact last prunes
    · exact earlier before z part prunes

end

theorem nanos_of_write {y : Step κ α} {key : κ} {value : α} (h : y.write? key = some value) :
    y.nanos = 0 := by
  cases y with
  | act a => rfl
  | wait nanos => cases h
  | get k => rfl

theorem lastWrite_concat {l : List (Step κ α)} {y write : Step κ α} {key : κ} {value : α}
    {after : List (Step κ α)} :
    LastWrite (l ++ [y]) key value write after ↔
      (after = [] ∧ write = y ∧ y.write? key = some value) ∨
      ∃ between, after = between ++ [y] ∧ LastWrite l key value write between ∧
        y.write? key = none ∧ y.removes key = false := by
  constructor
  · rintro ⟨⟨before, placed⟩, wrote, kept⟩
    rcases List.eq_nil_or_concat after with rfl | ⟨between, z, rfl⟩
    · obtain ⟨rfl, same⟩ := List.append_inj' placed rfl
      cases same
      exact .inl ⟨rfl, rfl, wrote⟩
    · rw [List.concat_eq_append] at placed kept ⊢
      have split : l ++ [y] = (before ++ write :: between) ++ [z] := by simpa using placed
      obtain ⟨rfl, same⟩ := List.append_inj' split rfl
      cases same
      refine .inr ⟨between, rfl, ⟨⟨before, rfl⟩, wrote, fun w hw => ?_⟩, ?_⟩
      · exact kept w (List.mem_append_left _ hw)
      · exact kept y (List.mem_append_right _ List.mem_cons_self)
  · rintro (⟨rfl, rfl, wrote⟩ | ⟨between, rfl, ⟨⟨before, rfl⟩, wrote, kept⟩, quiet⟩)
    · exact ⟨⟨l, rfl⟩, wrote, by simp⟩
    · refine ⟨⟨before, by simp⟩, wrote, fun w hw => ?_⟩
      rcases List.mem_append.mp hw with hw | hw
      · exact kept w hw
      · rw [List.mem_singleton.mp hw]
        exact quiet

theorem not_lastWrite_nil {key : κ} {value : α} {write : Step κ α} {after : List (Step κ α)} :
    ¬ LastWrite [] key value write after := by
  rintro ⟨⟨before, placed⟩, -, -⟩
  simp at placed

/-- A write that is young now has been young all the time. -/
theorem LastWrite.outlasts {steps after : List (Step κ α)} {key : κ} {value : α}
    {write : Step κ α} (h : LastWrite steps key value write after) {limit : Nat}
    (young : elapsed after < limit) : Outlasts limit (write :: after) := by
  intro before y part _
  have early := elapsed_le_of_prefix ((List.prefix_append before [y]).trans part)
  rw [elapsed_cons, nanos_of_write h.wrote, Nat.zero_add] at early
  exact Nat.lt_of_le_of_lt early young

/-! ### Entries -/

theorem get?_puts (c : Cache κ α) (now : Instant) (values : List (κ × α)) (key : κ) :
    (values.foldl (fun c v => c.put now v.1 v.2) c).entries.get? key =
      ((lastUnder values key).map (⟨·, now⟩)).or (c.entries.get? key) := by
  induction values generalizing c with
  | nil => rfl
  | cons v rest ih =>
    rw [List.foldl_cons, ih, lastUnder_cons, put, Assoc.get?_put]
    cases lastUnder rest key with
    | some later => rfl
    | none => by_cases same : key = v.1 <;> simp [same]

theorem windows_puts (c : Cache κ α) (now : Instant) (values : List (κ × α)) :
    (values.foldl (fun c v => c.put now v.1 v.2) c).fresh = c.fresh ∧
      (values.foldl (fun c v => c.put now v.1 v.2) c).hard = c.hard := by
  induction values generalizing c with
  | nil => exact ⟨rfl, rfl⟩
  | cons v rest ih => exact ih (c.put now v.1 v.2)

theorem windows_step (c : Cache κ α) (now : Instant) (a : Action κ α) :
    (c.step now a).fresh = c.fresh ∧ (c.step now a).hard = c.hard := by
  cases a with
  | populate values => exact windows_puts c now values
  | put k value => exact ⟨rfl, rfl⟩
  | invalidate k => exact ⟨rfl, rfl⟩
  | prune => exact ⟨rfl, rfl⟩
  | clear => exact ⟨rfl, rfl⟩

/-- The entry that an action leaves before it prunes. -/
def touched (c : Cache κ α) (now : Instant) (a : Action κ α) (key : κ) : Option (CacheEntry α) :=
  ((a.write? key).map (⟨·, now⟩)).or (if a.removes key then none else c.entries.get? key)

theorem get?_entries_step (c : Cache κ α) (now : Instant) (a : Action κ α) (key : κ) :
    (c.step now a).entries.get? key =
      if a.prunes then (c.touched now a key).filter fun e => now.within e.written c.hard
      else c.touched now a key := by
  cases a with
  | put k value =>
    by_cases same : key = k <;>
      simp [step, put, touched, Action.write?, Action.removes, Action.prunes, same]
  | populate values =>
    have hard := (windows_puts c now values).2
    simp only [step, populate, prune, hard, Assoc.get?_filter, get?_puts]
    rfl
  | invalidate k =>
    by_cases same : key = k <;>
      simp [step, invalidate, touched, Action.write?, Action.removes, Action.prunes, same]
  | prune => exact Assoc.get?_filter _ _ _
  | clear => rfl

namespace Clocked

theorem run_concat (x : Clocked κ α) (l : List (Step κ α)) (y : Step κ α) :
    x.run (l ++ [y]) = (x.run l).step y := by
  simp [run]

theorem now_step (x : Clocked κ α) (y : Step κ α) : (x.step y).now = x.now + y.nanos := by
  cases y <;> rfl

/-- An entry after a step: written by it, or left by it, and young if the step pruned. -/
theorem entry_step (x : Clocked κ α) (y : Step κ α) (key : κ) (e : CacheEntry α) :
    (x.step y).cache.entries.get? key = some e ↔
      ((y.write? key = some e.value ∧ e.written = x.now) ∨
        (y.write? key = none ∧ y.removes key = false ∧ x.cache.entries.get? key = some e)) ∧
      (y.prunes = true → x.now - e.written < x.cache.hard.nanos) := by
  cases y with
  | wait nanos => simp [step, Step.write?, Step.removes, Step.prunes]
  | get k => simp [step, Step.write?, Step.removes, Step.prunes]
  | act a =>
    have left : x.cache.touched x.now a key = some e ↔
        (a.write? key = some e.value ∧ e.written = x.now) ∨
          (a.write? key = none ∧ a.removes key = false ∧ x.cache.entries.get? key = some e) := by
      rw [touched]
      cases a.write? key with
      | some value =>
        obtain ⟨value', written⟩ := e
        simp [eq_comm (a := x.now)]
      | none => cases a.removes key <;> simp
    rw [step, get?_entries_step, Step.write?, Step.removes, Step.prunes, ← left]
    cases a.prunes with
    | true => simp [Option.filter_eq_some_iff, Instant.within]
    | false => simp

/-- The entries are the last writes that have outlasted every pruning, and they know their time. -/
structure Mirrors (fresh hard : Duration) (x : Clocked κ α) (steps : List (Step κ α)) : Prop where
  clock : x.now = elapsed steps
  window : x.cache.fresh = fresh
  limit : x.cache.hard.nanos = max fresh.nanos hard.nanos
  held (key : κ) (e : CacheEntry α) : x.cache.entries.get? key = some e ↔
    ∃ write after, LastWrite steps key e.value write after ∧
      Outlasts (max fresh.nanos hard.nanos) (write :: after) ∧ e.written + elapsed after = x.now

theorem mirrors_start (fresh hard : Duration) :
    Mirrors fresh hard (start fresh hard : Clocked κ α) [] where
  clock := rfl
  window := rfl
  limit := by
    show (max hard fresh).nanos = _
    rw [Duration.nanos_max, Nat.max_comm]
  held key e := by
    constructor
    · intro entry
      cases entry
    · rintro ⟨write, after, last, -, -⟩
      exact absurd last not_lastWrite_nil

theorem young_iff {written age now limit : Nat} (time : written + age = now) :
    now - written < limit ↔ age < limit := by
  omega

theorem Mirrors.step {fresh hard : Duration} {x : Clocked κ α} {steps : List (Step κ α)}
    (h : Mirrors fresh hard x steps) (y : Step κ α) :
    Mirrors fresh hard (x.step y) (steps ++ [y]) where
  clock := by rw [now_step, h.clock, elapsed_append, elapsed_cons, elapsed_nil, Nat.add_zero]
  window := by
    cases y with
    | act a => exact (windows_step _ _ a).1.trans h.window
    | wait nanos => exact h.window
    | get k => exact h.window
  limit := by
    cases y with
    | act a => exact (congrArg Duration.nanos (windows_step _ _ a).2).trans h.limit
    | wait nanos => exact h.limit
    | get k => exact h.limit
  held key e := by
    rw [entry_step, now_step, h.limit]
    constructor
    · rintro ⟨⟨wrote, now⟩ | ⟨quiet, kept, entry⟩, young⟩
      · rw [now, Nat.sub_self] at young
        refine ⟨y, [], lastWrite_concat.mpr (.inl ⟨rfl, rfl, wrote⟩), ?_, ?_⟩
        · exact outlasts_concat (l := []) |>.mpr ⟨outlasts_nil _, young⟩
        · rw [elapsed_nil, now, nanos_of_write wrote]
      · obtain ⟨write, after, last, outlasts, time⟩ := (h.held key e).mp entry
        rw [young_iff time] at young
        refine ⟨write, after ++ [y], lastWrite_concat.mpr (.inr ⟨after, rfl, last, quiet, kept⟩),
          ?_, ?_⟩
        · refine outlasts_concat (l := write :: after) |>.mpr ⟨outlasts, ?_⟩
          rwa [elapsed_cons, nanos_of_write last.wrote, Nat.zero_add]
        · rw [elapsed_append, elapsed_cons, elapsed_nil, Nat.add_zero, ← Nat.add_assoc, time]
    · rintro ⟨write, after, last, outlasts, time⟩
      rcases lastWrite_concat.mp last with ⟨rfl, rfl, wrote⟩ | ⟨between, rfl, last, quiet, kept⟩
      · have time : e.written = x.now := by simpa [nanos_of_write wrote] using time
        rw [time, Nat.sub_self]
        exact ⟨.inl ⟨wrote, rfl⟩, (outlasts_concat (l := []) |>.mp outlasts).2⟩
      · obtain ⟨outlasts, young⟩ := outlasts_concat (l := write :: between) |>.mp outlasts
        rw [elapsed_cons, nanos_of_write last.wrote, Nat.zero_add] at young
        have time : e.written + elapsed between = x.now := by
          rw [elapsed_append, elapsed_cons, elapsed_nil, Nat.add_zero, ← Nat.add_assoc] at time
          exact Nat.add_right_cancel time
        rw [young_iff time]
        exact ⟨.inr ⟨quiet, kept, (h.held key e).mpr ⟨write, between, last, outlasts, time⟩⟩, young⟩

theorem mirrors_run (fresh hard : Duration) (steps : List (Step κ α)) :
    Mirrors fresh hard ((start fresh hard).run steps) steps := by
  induction steps using List.reverseRecOn with
  | nil => exact mirrors_start fresh hard
  | append_singleton l y ih =>
    rw [run_concat]
    exact ih.step y

/-! ### Lookups and the size -/

theorem Mirrors.elapsed_le {fresh hard : Duration} {x : Clocked κ α} {steps : List (Step κ α)}
    (h : Mirrors fresh hard x steps) {key : κ} {value : α} {write : Step κ α}
    {after : List (Step κ α)} (last : LastWrite steps key value write after) :
    elapsed after ≤ x.now := by
  obtain ⟨before, placed⟩ := last.placed
  rw [h.clock, placed, elapsed_append, elapsed_cons]
  omega

theorem Mirrors.get?_iff {fresh hard : Duration} {x : Clocked κ α} {steps : List (Step κ α)}
    (h : Mirrors fresh hard x steps) (key : κ) (value : α) :
    x.get? key = some value ↔
      ∃ write after, LastWrite steps key value write after ∧ elapsed after < fresh.nanos := by
  rw [get?, Cache.get?]
  constructor
  · intro served
    cases entry : x.cache.entries.get? key with
    | none => simp [entry] at served
    | some e =>
      obtain ⟨write, after, last, -, time⟩ := (h.held key e).mp entry
      rw [entry] at served
      simp only [Instant.within, h.window, young_iff time, decide_eq_true_eq,
        Option.ite_none_right_eq_some, Option.some.injEq] at served
      obtain ⟨young, rfl⟩ := served
      exact ⟨write, after, last, young⟩
  · rintro ⟨write, after, last, young⟩
    have time : x.now - elapsed after + elapsed after = x.now :=
      Nat.sub_add_cancel (h.elapsed_le last)
    have outlasts : Outlasts (max fresh.nanos hard.nanos) (write :: after) :=
      last.outlasts (Nat.lt_of_lt_of_le young (Nat.le_max_left _ _))
    rw [(h.held key ⟨value, x.now - elapsed after⟩).mpr ⟨write, after, last, outlasts, time⟩]
    simp [Instant.within, h.window, young_iff time, young]

/-- A step that does not concern a key leaves it alone, takes no time and asks nothing. -/
theorem quiet_of_not_concerns {y : Step κ α} {key : κ} (h : y.concerns key = false) :
    y.write? key = none ∧ y.removes key = false ∧ y.nanos = 0 ∧
      ∀ x : Clocked κ α, x.told key y = [] := by
  cases y with
  | wait nanos => cases h
  | get k => cases h
  | act a =>
    cases a with
    | put k value =>
      have other : key ≠ k := by simpa [Step.concerns, Action.mentions] using h
      exact ⟨if_neg other, rfl, rfl, fun _ => rfl⟩
    | populate values =>
      have others : ∀ a b, (a, b) ∈ values → a ≠ key := by
        simpa [Step.concerns, Action.mentions] using h
      refine ⟨?_, rfl, rfl, fun _ => rfl⟩
      have none_listed : values.filter (fun v => v.1 = key) = [] := by
        simpa using others
      rw [Step.write?, Action.write?, lastUnder_eq, none_listed]
      rfl
    | invalidate k =>
      have other : key ≠ k := by simpa [Step.concerns, Action.mentions] using h
      exact ⟨rfl, by simpa [Step.removes, Action.removes] using other, rfl, fun _ => rfl⟩
    | prune => exact ⟨rfl, rfl, rfl, fun _ => rfl⟩
    | clear => cases h

theorem filter_concat_of_concerns {y : Step κ α} {key : κ} (h : y.concerns key = true)
    (l : List (Step κ α)) :
    (l ++ [y]).filter (·.concerns key) = l.filter (·.concerns key) ++ [y] := by
  simp [h]

theorem filter_concat_of_not_concerns {y : Step κ α} {key : κ} (h : y.concerns key = false)
    (l : List (Step κ α)) :
    (l ++ [y]).filter (·.concerns key) = l.filter (·.concerns key) := by
  simp [h]

/-- The value of the last write, and how long ago it was. -/
def LastAge (steps : List (Step κ α)) (key : κ) (value : α) (age : Nat) : Prop :=
  ∃ write after, LastWrite steps key value write after ∧ elapsed after = age

theorem lastAge_concat {l : List (Step κ α)} {y : Step κ α} {key : κ} {value : α} {age : Nat} :
    LastAge (l ++ [y]) key value age ↔
      (y.write? key = some value ∧ age = 0) ∨
      (y.write? key = none ∧ y.removes key = false ∧
        ∃ before, LastAge l key value before ∧ before + y.nanos = age) := by
  constructor
  · rintro ⟨write, after, last, rfl⟩
    rcases lastWrite_concat.mp last with ⟨rfl, rfl, wrote⟩ | ⟨between, rfl, last, quiet, kept⟩
    · exact .inl ⟨wrote, rfl⟩
    · exact .inr ⟨quiet, kept, elapsed between, ⟨write, between, last, rfl⟩, by simp⟩
  · rintro (⟨wrote, rfl⟩ | ⟨quiet, kept, _, ⟨write, after, last, rfl⟩, rfl⟩)
    · exact ⟨y, [], lastWrite_concat.mpr (.inl ⟨rfl, rfl, wrote⟩), rfl⟩
    · exact ⟨write, after ++ [y], lastWrite_concat.mpr (.inr ⟨after, rfl, last, quiet, kept⟩),
        by simp⟩

theorem lastAge_filter (steps : List (Step κ α)) (key : κ) (value : α) (age : Nat) :
    LastAge (steps.filter (·.concerns key)) key value age ↔ LastAge steps key value age := by
  induction steps using List.reverseRecOn generalizing age with
  | nil => rfl
  | append_singleton l y ih =>
    cases concerned : y.concerns key with
    | true =>
      rw [filter_concat_of_concerns concerned, lastAge_concat, lastAge_concat]
      simp only [ih]
    | false =>
      obtain ⟨quiet, kept, instant, -⟩ := quiet_of_not_concerns concerned
      rw [filter_concat_of_not_concerns concerned, ih, lastAge_concat]
      simp [quiet, kept, instant]

theorem get?_run_iff (fresh hard : Duration) (steps : List (Step κ α)) (key : κ) (value : α) :
    ((start fresh hard).run steps).get? key = some value ↔
      ∃ age, LastAge steps key value age ∧ age < fresh.nanos := by
  rw [(mirrors_run fresh hard steps).get?_iff]
  constructor
  · rintro ⟨write, after, last, young⟩
    exact ⟨_, ⟨write, after, last, rfl⟩, young⟩
  · rintro ⟨_, ⟨write, after, last, rfl⟩, young⟩
    exact ⟨write, after, last, young⟩

/-- Only what concerns a key decides what is found under it. -/
theorem get?_run_filter (fresh hard : Duration) (steps : List (Step κ α)) (key : κ) :
    ((start fresh hard).run (steps.filter (·.concerns key))).get? key =
      ((start fresh hard).run steps).get? key := by
  refine Option.ext fun value => ?_
  rw [get?_run_iff, get?_run_iff]
  simp only [lastAge_filter]

theorem answers_concat (key : κ) (x : Clocked κ α) (l : List (Step κ α)) (y : Step κ α) :
    x.answers key (l ++ [y]) = x.answers key l ++ (x.run l).told key y := by
  induction l generalizing x with
  | nil => simp [answers, run]
  | cons z rest ih =>
    rw [List.cons_append, answers, ih, answers, List.append_assoc]
    rfl

theorem told_congr {x x' : Clocked κ α} {key : κ} (h : x.get? key = x'.get? key)
    (y : Step κ α) : x.told key y = x'.told key y := by
  cases y with
  | get k => rw [told, told, h]
  | wait nanos => rfl
  | act a => rfl

theorem answers_filter (fresh hard : Duration) (steps : List (Step κ α)) (key : κ) :
    (start fresh hard).answers key (steps.filter (·.concerns key)) =
      (start fresh hard).answers key steps := by
  induction steps using List.reverseRecOn with
  | nil => rfl
  | append_singleton l y ih =>
    rw [answers_concat, ← ih]
    cases concerned : y.concerns key with
    | true =>
      rw [filter_concat_of_concerns concerned, answers_concat,
        told_congr (get?_run_filter fresh hard l key)]
    | false =>
      obtain ⟨-, -, -, silent⟩ := quiet_of_not_concerns concerned
      rw [filter_concat_of_not_concerns concerned, silent, List.append_nil]

/-- The keys of the entries that are held. -/
def keys (x : Clocked κ α) : List κ := x.cache.entries.entries.map Prod.fst

theorem Mirrors.mem_keys_iff {fresh hard : Duration} {x : Clocked κ α} {steps : List (Step κ α)}
    (h : Mirrors fresh hard x steps) (key : κ) : key ∈ x.keys ↔
      ∃ value write after, LastWrite steps key value write after ∧
        Outlasts (max fresh.nanos hard.nanos) (write :: after) := by
  rw [keys, Assoc.mem_keys_iff]
  constructor
  · rintro ⟨e, entry⟩
    obtain ⟨write, after, last, outlasts, -⟩ := (h.held key e).mp entry
    exact ⟨e.value, write, after, last, outlasts⟩
  · rintro ⟨value, write, after, last, outlasts⟩
    refine ⟨⟨value, x.now - elapsed after⟩, (h.held key _).mpr ⟨write, after, last, outlasts, ?_⟩⟩
    exact Nat.sub_add_cancel (h.elapsed_le last)

/-- A cache in any use answers and holds what its history says. A lookup finds the last write, unless
it was dropped on purpose or is not fresh any more; neither pruning nor writing other keys changes
what lookups find; the entries held are the last writes that have outlasted every pruning. -/
theorem use_follows_history (fresh hard : Duration) (steps : List (Step κ α)) :
    let x := (start fresh hard).run steps
    (∀ key value, x.get? key = some value ↔
      ∃ write after, LastWrite steps key value write after ∧ elapsed after < fresh.nanos) ∧
    (∀ key steps',
      steps.filter (·.concerns key) = steps'.filter (·.concerns key) →
        (start fresh hard).answers key steps = (start fresh hard).answers key steps') ∧
    ∃ keys : List κ, keys.Nodup ∧ x.cache.size = keys.length ∧
      ∀ key, key ∈ keys ↔
        ∃ value write after, LastWrite steps key value write after ∧
          Outlasts (max fresh.nanos hard.nanos) (write :: after) := by
  intro x
  have mirrors : Mirrors fresh hard x steps := mirrors_run fresh hard steps
  refine ⟨mirrors.get?_iff, fun key steps' same => ?_, x.keys, x.cache.entries.nodup, ?_,
    mirrors.mem_keys_iff⟩
  · rw [← answers_filter, same, answers_filter]
  · rw [keys, List.length_map]
    rfl

/-- An entry that was young when it was last pruned is held, though it is not served any more. -/
example :
    let x := (start (.ofNanos 10) (.ofNanos 5) : Clocked String Nat).run
      [.act (.put "a" 1), .wait 9, .act .prune, .act (.populate [("b", 2), ("b", 3)]), .wait 1]
    (x.get? "a", x.get? "b", x.cache.size) = (none, some 3, 2) := by
  decide +kernel

end Clocked

end TrafficTrace.Cache
