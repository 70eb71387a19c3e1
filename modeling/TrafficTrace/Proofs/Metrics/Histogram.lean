import Mathlib.Algebra.BigOperators.Group.List.Basic
import Mathlib.Algebra.Order.Ring.Nat
import Mathlib.Data.List.Induction
import TrafficTrace.Metrics.Histogram

/-!
# What a histogram tells of its samples

Over bounds in order, a bucket counts the samples above the bound below it and not above its own, and
the counts up to a bucket are the samples not above its bound. So the walk to a rank ends at the least
bound that as many samples do not exceed.
-/
namespace TrafficTrace.Histogram

variable {bounds : List Nat} {ds : List Duration} {rank : Nat}

/-! ### Buckets -/

/-- The bound below a bucket; the first bucket has none. -/
def boundBelow? (bounds : List Nat) : Nat → Option Nat
  | 0 => none
  | place + 1 => bounds[place]?

/-- Whether milliseconds lie above the bound below a bucket and not above the bucket's own bound. The
last bucket has no bound of its own. -/
def inBucket (bounds : List Nat) (place millis : Nat) : Bool :=
  (boundBelow? bounds place).all (· < millis) && bounds[place]?.all (millis ≤ ·)

theorem bucketOf_le_length (bounds : List Nat) (millis : Nat) :
    bucketOf bounds millis ≤ bounds.length := List.findIdx_le_length

theorem getElem_le_getElem (sorted : bounds.Pairwise (· ≤ ·)) {i j : Nat} (ordered : i ≤ j)
    (inside : j < bounds.length) : bounds[i] ≤ bounds[j] := by
  rcases Nat.eq_or_lt_of_le ordered with rfl | before
  · exact Nat.le_refl _
  · exact List.pairwise_iff_getElem.mp sorted i j _ inside before

/-- The first bound that is large enough comes no later than another that is. -/
theorem bucketOf_le_iff (sorted : bounds.Pairwise (· ≤ ·)) (place millis : Nat) :
    bucketOf bounds millis ≤ place ↔ bounds[place]?.all (millis ≤ ·) = true := by
  rcases Nat.lt_or_ge place bounds.length with inside | outside
  · rw [List.getElem?_eq_getElem inside, Option.all_some, decide_eq_true_eq]
    constructor
    · intro early
      have found : bucketOf bounds millis < bounds.length := Nat.lt_of_le_of_lt early inside
      have enough : millis ≤ bounds[bucketOf bounds millis] :=
        of_decide_eq_true (List.findIdx_getElem (p := fun b => millis ≤ b) (w := found))
      exact Nat.le_trans enough (getElem_le_getElem sorted early inside)
    · intro enough
      by_contra late
      have small : decide (millis ≤ bounds[place]) = false :=
        List.not_of_lt_findIdx (Nat.not_le.mp late)
      exact of_decide_eq_false small enough
  · rw [List.getElem?_eq_none outside]
    exact iff_of_true (Nat.le_trans (bucketOf_le_length bounds millis) outside) rfl

theorem bucketOf_eq_iff (sorted : bounds.Pairwise (· ≤ ·)) {place : Nat}
    (inside : place ≤ bounds.length) (millis : Nat) :
    bucketOf bounds millis = place ↔ inBucket bounds place millis = true := by
  have upper := bucketOf_le_iff sorted place millis
  have lower : place ≤ bucketOf bounds millis ↔
      (boundBelow? bounds place).all (· < millis) = true := by
    cases place with
    | zero => simp [boundBelow?]
    | succ place =>
      have below := bucketOf_le_iff sorted place millis
      have held : bounds[place]? = some bounds[place] := List.getElem?_eq_getElem inside
      rw [held, Option.all_some, decide_eq_true_eq] at below
      rw [boundBelow?, held, Option.all_some, decide_eq_true_eq]
      omega
  rw [inBucket, Bool.and_eq_true, ← upper, ← lower]
  omega

/-! ### Counts -/

/-- The histogram of the given durations. -/
def recordAll (bounds : List Nat) (ds : List Duration) : Histogram :=
  ds.foldl record (withBounds bounds)

theorem recordAll_concat (bounds : List Nat) (ds : List Duration) (d : Duration) :
    recordAll bounds (ds ++ [d]) = (recordAll bounds ds).record d := by
  rw [recordAll, List.foldl_append]
  rfl

theorem bounds_recordAll (bounds : List Nat) (ds : List Duration) :
    (recordAll bounds ds).bounds = bounds := by
  induction ds using List.reverseRecOn with
  | nil => rfl
  | append_singleton ds d ih =>
    rw [recordAll_concat]
    exact ih

/-- Each count is that of the samples for which its bucket is the first. -/
theorem counts_recordAll (bounds : List Nat) (ds : List Duration) :
    (recordAll bounds ds).counts = (List.range (bounds.length + 1)).map fun place =>
      ds.countP fun d => bucketOf bounds (sample d) = place := by
  induction ds using List.reverseRecOn with
  | nil => simp [recordAll, withBounds]
  | append_singleton ds d ih =>
    rw [recordAll_concat, record, ih, bounds_recordAll]
    apply List.ext_getElem
    · simp
    · intro place _ _
      rw [List.getElem_modify]
      by_cases here : bucketOf bounds (sample d) = place <;> simp [here]

theorem countP_lt_succ {α : Type} (f : α → Nat) (n : Nat) (xs : List α) :
    xs.countP (f · < n + 1) = xs.countP (f · < n) + xs.countP (f · = n) := by
  induction xs with
  | nil => rfl
  | cons x xs ih =>
    simp only [List.countP_cons, ih, decide_eq_true_eq]
    split_ifs <;> omega

/-- What falls into the first places, one place after the other. -/
theorem sum_countP_eq {α : Type} (f : α → Nat) (xs : List α) (n : Nat) :
    ((List.range n).map fun i => xs.countP (f · = i)).sum = xs.countP (f · < n) := by
  induction n with
  | zero => simp
  | succ n ih =>
    rw [List.range_succ, List.map_append, List.sum_append, ih, List.map_singleton,
      List.sum_singleton, countP_lt_succ]

/-- The counts up to a bucket are the samples that fall into these buckets. -/
theorem sum_take_counts (bounds : List Nat) (ds : List Duration) {place : Nat}
    (inside : place ≤ bounds.length) :
    ((recordAll bounds ds).counts.take (place + 1)).sum =
      ds.countP fun d => bucketOf bounds (sample d) ≤ place := by
  have first : (List.range (bounds.length + 1)).take (place + 1) = List.range (place + 1) := by
    rw [List.take_range, Nat.min_eq_left (Nat.succ_le_succ inside)]
  rw [counts_recordAll, ← List.map_take, first, sum_countP_eq]
  simp only [Nat.lt_succ_iff]

theorem length_counts_recordAll (bounds : List Nat) (ds : List Duration) :
    (recordAll bounds ds).counts.length = bounds.length + 1 := by
  rw [counts_recordAll, List.length_map, List.length_range]

theorem total_recordAll (bounds : List Nat) (ds : List Duration) :
    (recordAll bounds ds).total = ds.length := by
  have all := sum_take_counts bounds ds (Nat.le_refl bounds.length)
  rw [← length_counts_recordAll bounds ds, List.take_length] at all
  refine all.trans (List.countP_eq_length.mpr ?_)
  intro d _
  exact decide_eq_true (bucketOf_le_length bounds (sample d))

/-! ### Ranks -/

/-- The walk stops at the first place at which the running sum has reached the rank. -/
theorem placeOfRank_eq_find? (rank place seen : Nat) (counts : List Nat) :
    placeOfRank rank place seen counts =
      ((List.range counts.length).find? fun i => rank ≤ seen + (counts.take (i + 1)).sum).map
        (place + ·) := by
  induction counts generalizing place seen with
  | nil => rfl
  | cons c cs ih =>
    have later : (fun i => decide (rank ≤ seen + ((c :: cs).take (i + 1)).sum)) ∘ Nat.succ =
        fun i => decide (rank ≤ seen + c + (cs.take (i + 1)).sum) := by
      funext i
      rw [Function.comp_apply, decide_eq_decide, List.take_succ_cons, List.sum_cons]
      omega
    rw [placeOfRank, List.length_cons, List.range_succ_eq_map, List.find?_cons, List.find?_map,
      later]
    by_cases here : rank ≤ seen + c
    · simp [here]
    · simp [here, ih, Function.comp_def, Nat.add_assoc, Nat.add_comm 1]

/-- How many of the durations have at most this many whole milliseconds. -/
def samplesUpTo (ds : List Duration) (bound : Nat) : Nat := ds.countP fun d => d.millis ≤ bound

/-- The least bound that as many durations do not exceed, and twice the last bound if there is none. -/
def IsBoundOfRank (bounds : List Nat) (ds : List Duration) (rank bound : Nat) : Prop :=
  (bound ∈ bounds ∧ rank ≤ samplesUpTo ds bound ∧
      ∀ b ∈ bounds, rank ≤ samplesUpTo ds b → bound ≤ b) ∨
    (∀ b ∈ bounds, samplesUpTo ds b < rank) ∧ bound = bounds.getLast?.getD 0 * 2

theorem sample_eq {d : Duration} (short : d.millis < 2 ^ 64) : sample d = d.millis :=
  Nat.mod_eq_of_lt short

theorem sum_take_counts_of_bound (sorted : bounds.Pairwise (· ≤ ·))
    (short : ∀ d ∈ ds, d.millis < 2 ^ 64) {place bound : Nat} (held : bounds[place]? = some bound) :
    ((recordAll bounds ds).counts.take (place + 1)).sum = samplesUpTo ds bound := by
  obtain ⟨inside, -⟩ := List.getElem?_eq_some_iff.mp held
  rw [sum_take_counts bounds ds (Nat.le_of_lt inside)]
  apply List.countP_congr
  intro d hd
  have within := bucketOf_le_iff sorted place (sample d)
  rw [held, Option.all_some, sample_eq (short d hd)] at within
  rw [sample_eq (short d hd), decide_eq_true_eq, within]

/-- Where the walk to a rank ends: its bound is reached by as many samples, the bounds before are not. -/
theorem exists_place_of_rank (sorted : bounds.Pairwise (· ≤ ·))
    (short : ∀ d ∈ ds, d.millis < 2 ^ 64) (within : rank ≤ ds.length) :
    ∃ place, place ≤ bounds.length ∧
      (recordAll bounds ds).boundOfRank rank = some (boundAt bounds place) ∧
      (∀ b, bounds[place]? = some b → rank ≤ samplesUpTo ds b) ∧
      ∀ i b, i < place → bounds[i]? = some b → samplesUpTo ds b < rank := by
  let counts := (recordAll bounds ds).counts
  have length : counts.length = bounds.length + 1 := length_counts_recordAll bounds ds
  have all : (counts.take (bounds.length + 1)).sum = ds.length := by
    rw [← length, List.take_length]
    exact total_recordAll bounds ds
  have reached : ((List.range counts.length).find? fun i =>
      rank ≤ 0 + (counts.take (i + 1)).sum).isSome = true := by
    rw [List.find?_isSome]
    refine ⟨bounds.length, List.mem_range.mpr (by omega), ?_⟩
    rw [all, Nat.zero_add]
    exact decide_eq_true within
  obtain ⟨place, found⟩ := Option.isSome_iff_exists.mp reached
  have walk : (recordAll bounds ds).boundOfRank rank = some (boundAt bounds place) := by
    rw [boundOfRank, placeOfRank_eq_find?, found, bounds_recordAll, Option.map_some, Option.map_some,
      Nat.zero_add]
  obtain ⟨enough, inside, before⟩ := List.find?_range_eq_some.mp found
  have inside : place < counts.length := List.mem_range.mp inside
  refine ⟨place, by omega, walk, ?_, ?_⟩
  · intro b held
    rw [← sum_take_counts_of_bound sorted short held]
    simpa using enough
  · intro i b earlier held
    rw [← sum_take_counts_of_bound sorted short held]
    simpa using before i earlier

/-- The bound at which the walk ends. -/
theorem exists_boundOfRank (sorted : bounds.Pairwise (· ≤ ·))
    (short : ∀ d ∈ ds, d.millis < 2 ^ 64) (within : rank ≤ ds.length) :
    ∃ bound, (recordAll bounds ds).boundOfRank rank = some bound ∧
      IsBoundOfRank bounds ds rank bound := by
  obtain ⟨place, inside, walk, reached, before⟩ := exists_place_of_rank sorted short within
  refine ⟨_, walk, ?_⟩
  rcases Nat.eq_or_lt_of_le inside with rfl | inside
  · refine .inr ⟨?_, ?_⟩
    · intro b hb
      obtain ⟨i, earlier, held⟩ := List.getElem_of_mem hb
      exact before i b earlier (List.getElem?_eq_some_iff.mpr ⟨earlier, held⟩)
    · rw [boundAt, List.getElem?_eq_none (Nat.le_refl _)]
  · have held : bounds[place]? = some bounds[place] := List.getElem?_eq_getElem inside
    have bound : boundAt bounds place = bounds[place] := by rw [boundAt, held]
    rw [bound]
    refine .inl ⟨List.getElem_mem inside, reached _ held, ?_⟩
    intro b hb enough
    obtain ⟨i, there, same⟩ := List.getElem_of_mem hb
    rw [← same] at enough ⊢
    have later : place ≤ i := by
      by_contra earlier
      have short := before i _ (Nat.not_le.mp earlier) (List.getElem?_eq_getElem there)
      exact absurd enough (Nat.not_le.mpr short)
    exact getElem_le_getElem sorted later there

theorem le_last (sorted : bounds.Pairwise (· ≤ ·)) {b : Nat} (hb : b ∈ bounds) :
    b ≤ bounds.getLast?.getD 0 := by
  obtain ⟨i, there, rfl⟩ := List.getElem_of_mem hb
  have last : bounds.getLast? = some bounds[bounds.length - 1] := by
    rw [List.getLast?_eq_getElem?, List.getElem?_eq_getElem]
  rw [last, Option.getD_some]
  exact getElem_le_getElem sorted (Nat.le_sub_one_of_lt there) _

namespace IsBoundOfRank

variable {bound bound' rank' : Nat}

theorem le (h : IsBoundOfRank bounds ds rank bound) (sorted : bounds.Pairwise (· ≤ ·)) :
    bound ≤ bounds.getLast?.getD 0 * 2 := by
  rcases h with ⟨listed, -, -⟩ | ⟨-, rfl⟩
  · have upper := le_last sorted listed
    omega
  · exact Nat.le_refl _

/-- A higher rank has no lower bound. -/
theorem mono (h : IsBoundOfRank bounds ds rank bound) (h' : IsBoundOfRank bounds ds rank' bound')
    (sorted : bounds.Pairwise (· ≤ ·)) (higher : rank ≤ rank') : bound ≤ bound' := by
  rcases h' with ⟨listed, enough, -⟩ | ⟨-, rfl⟩
  · rcases h with ⟨-, -, least⟩ | ⟨short, -⟩
    · exact least bound' listed (Nat.le_trans higher enough)
    · have fewer := short bound' listed
      omega
  · exact h.le sorted

/-- Twice a bound below `2^63` has 64 bits. -/
theorem lt_word (h : IsBoundOfRank bounds ds rank bound) (sorted : bounds.Pairwise (· ≤ ·))
    (last : ∀ b ∈ bounds.getLast?, b < 2 ^ 63) : bound < 2 ^ 64 := by
  have upper := h.le sorted
  cases final : bounds.getLast? with
  | none =>
    rw [final, Option.getD_none] at upper
    omega
  | some b =>
    have small := last b final
    rw [final, Option.getD_some] at upper
    omega

end IsBoundOfRank

/-- What the walk gives for the rank of a percentile is what is reported. -/
theorem percentile_eq {p : Number.Binary64} {bound : Nat} (filled : ds ≠ [])
    (target : rankOf? (recordAll bounds ds).total p = some rank)
    (walk : (recordAll bounds ds).boundOfRank rank = some bound) :
    (recordAll bounds ds).percentile p = .ofMillis bound := by
  have some_sample : (recordAll bounds ds).total ≠ 0 := by
    rw [total_recordAll]
    exact List.length_eq_zero_iff.not.mpr filled
  rw [percentile, if_neg some_sample, target, Option.bind_some, walk]

/-- Over bounds in order, the counts are those of the samples between two bounds, and they add up to
the number of samples. Every rank among the samples is reported as the least bound that as many samples
do not exceed, or as twice the last bound; a higher rank is not reported lower. -/
theorem counts_and_ranks {bounds : List Nat} {ds : List Duration}
    (sorted : bounds.Pairwise (· ≤ ·)) (last : ∀ b ∈ bounds.getLast?, b < 2 ^ 63)
    (short : ∀ d ∈ ds, d.millis < 2 ^ 64) :
    let h := recordAll bounds ds
    h.counts.length = bounds.length + 1 ∧ h.counts.sum = ds.length ∧
      (∀ place, place ≤ bounds.length →
        h.counts[place]? = some (ds.countP fun d => inBucket bounds place d.millis)) ∧
      (∀ rank, 1 ≤ rank → rank ≤ ds.length →
        ∃ bound, h.boundOfRank rank = some bound ∧ IsBoundOfRank bounds ds rank bound ∧
          bound < 2 ^ 64 ∧ ∀ p, rankOf? h.total p = some rank → h.percentile p = .ofMillis bound) ∧
      ∀ rank rank' bound bound', 1 ≤ rank → rank ≤ rank' → rank' ≤ ds.length →
        h.boundOfRank rank = some bound → h.boundOfRank rank' = some bound' → bound ≤ bound' := by
  intro h
  refine ⟨length_counts_recordAll bounds ds, total_recordAll bounds ds, ?_, ?_, ?_⟩
  · intro place inside
    have listed : place < (List.range (bounds.length + 1)).length := by
      rw [List.length_range]
      omega
    rw [counts_recordAll, List.getElem?_map, List.getElem?_eq_getElem listed, List.getElem_range,
      Option.map_some, Option.some_inj]
    apply List.countP_congr
    intro d hd
    rw [sample_eq (short d hd), decide_eq_true_eq]
    exact bucketOf_eq_iff sorted inside d.millis
  · intro rank positive within
    obtain ⟨bound, walk, exact⟩ := exists_boundOfRank sorted short within
    have filled : ds ≠ [] := by
      rintro rfl
      exact absurd positive (Nat.not_le.mpr (Nat.lt_succ_of_le within))
    exact ⟨bound, walk, exact, exact.lt_word sorted last, fun p target =>
      percentile_eq filled target walk⟩
  · intro rank rank' bound bound' _ higher within walk walk'
    obtain ⟨b, found, lower⟩ : ∃ b, h.boundOfRank rank = some b ∧ IsBoundOfRank bounds ds rank b :=
      exists_boundOfRank sorted short (Nat.le_trans higher within)
    obtain ⟨b', found', upper⟩ := exists_boundOfRank sorted short within
    cases walk.symm.trans found
    cases walk'.symm.trans found'
    exact lower.mono upper sorted higher

/-- A bound that is there twice, samples on it and beyond the last one, and ranks on the edges of the
buckets. -/
theorem counts_and_ranks_repeated :
    let bounds := [10, 10, 50]
    let ds : List Duration := [.ofMillis 600, .ofMillis 10, .ofNanos 10999999, .ofMillis 11]
    let h := recordAll bounds ds
    bounds.Pairwise (· ≤ ·) ∧ (∀ b ∈ bounds.getLast?, b < 2 ^ 63) ∧
      (∀ d ∈ ds, d.millis < 2 ^ 64) ∧ h.counts = [2, 0, 1, 1] ∧
      IsBoundOfRank bounds ds 2 10 ∧ IsBoundOfRank bounds ds 3 50 ∧ IsBoundOfRank bounds ds 4 100 ∧
      ∀ p ∈ Number.Binary64.ofNat? 99, h.percentile p = .ofMillis 100 := by
  intro bounds ds h
  have sorted : bounds.Pairwise (· ≤ ·) := by decide
  have last : ∀ b ∈ bounds.getLast?, b < 2 ^ 63 := by decide
  have short : ∀ d ∈ ds, d.millis < 2 ^ 64 := by decide
  obtain ⟨-, -, -, ranks, -⟩ := counts_and_ranks sorted last short
  have at_rank (rank bound : Nat) (positive : 1 ≤ rank) (within : rank ≤ ds.length)
      (walk : h.boundOfRank rank = some bound) :
      IsBoundOfRank bounds ds rank bound ∧
        ∀ p, rankOf? h.total p = some rank → h.percentile p = .ofMillis bound := by
    obtain ⟨b, found, exact, -, reported⟩ := ranks rank positive within
    cases walk.symm.trans found
    exact ⟨exact, reported⟩
  have second := at_rank 2 10 (by decide) (by decide) (by decide)
  have third := at_rank 3 50 (by decide) (by decide) (by decide)
  have fourth := at_rank 4 100 (by decide) (by decide) (by decide)
  have target : (Number.Binary64.ofNat? 99).bind (rankOf? h.total) = some 4 := by decide +kernel
  refine ⟨sorted, last, short, by decide, second.1, third.1, fourth.1, ?_⟩
  intro p value
  rw [value, Option.bind_some] at target
  exact fourth.2 p target

end TrafficTrace.Histogram
