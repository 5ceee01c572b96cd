import Mathlib.Algebra.Order.BigOperators.Group.List
import Mathlib.Algebra.Order.Group.Nat
import Mathlib.Data.List.Sort
import FlowSteer.Proofs.Histogram.Buckets

/-!
# Percentiles

A histogram tells number, sum and extremes of its samples exactly. A percentile is told as a bucket
limit.

1. `bounds_percentile`: the limit is the least one within which there are as many samples as the
   percentile asks for.
2. `Bounds.ranked`: so it bounds the sample of that rank from above, and the lower limits bound it
   from below. `Bounds.le`: who asks for more samples gets no lower limit.
3. `le_average`, `average_le`: the average lies between the extremes while the sum does not run
   over.
4. `describes_recordAll`: all of it for any samples.
-/

namespace FlowSteer

namespace Histogram

variable {samples : List Nat} {target value : Nat}

/-! ## Bounds -/

/-- A value is the least limit within which there are enough samples, or the largest word when no
limit is enough. -/
def Bounds (samples : List Nat) (target value : Nat) : Prop :=
  (value ∈ limits ∧ target ≤ within samples value ∧
      ∀ limit ∈ limits, target ≤ within samples limit → value ≤ limit) ∨
    ((∀ limit ∈ limits, within samples limit < target) ∧ value = wordMax)

theorem least_of_find? {limits : List Nat} (ascending : limits.Pairwise (· < ·))
    {enough : Nat → Bool} (found : limits.find? enough = some value) :
    value ∈ limits ∧ enough value = true ∧
      ∀ limit ∈ limits, enough limit = true → value ≤ limit := by
  obtain ⟨suits, lower, upper, rfl, tooLow⟩ := List.find?_eq_some_iff_append.1 found
  refine ⟨by simp, suits, ?_⟩
  intro limit member isEnough
  rcases List.mem_append.1 member with isLower | notLower
  · have isLow := tooLow limit isLower
    rw [isEnough] at isLow
    cases isLow
  · rcases List.mem_cons.1 notLower with rfl | isUpper
    · exact Nat.le_refl _
    · have order := (List.pairwise_append.1 ascending).2.1
      exact Nat.le_of_lt ((List.pairwise_cons.1 order).1 limit isUpper)

/-- A percentile is the least limit within which there are as many samples as it asks for. -/
theorem bounds_percentile (words : ∀ sample ∈ samples, sample ≤ wordMax) (some : samples ≠ [])
    (share : Binary64) :
    Bounds samples ((empty.recordAll samples).target share)
      ((empty.recordAll samples).percentile share) := by
  have taken : (empty.recordAll samples).count ≠ 0 := by
    rw [count_recordAll]
    exact fun none => some (List.length_eq_zero_iff.1 (Nat.eq_zero_of_add_eq_zero_left none))
  have named : (limits.zip (empty.recordAll samples).buckets).map Prod.fst = limits := by
    apply List.map_fst_zip
    rw [length_buckets_recordAll]
    exact Nat.le_refl 8
  unfold percentile
  rw [if_neg taken, (accumulates_recordAll words).limitReaching_eq, named]
  generalize (empty.recordAll samples).target share = target
  cases found : limits.find? (target ≤ within samples ·) with
  | none =>
      refine .inr ⟨?_, rfl⟩
      intro limit member
      have few := List.find?_eq_none.1 found limit member
      rwa [decide_eq_true_eq, Nat.not_le] at few
  | some value =>
      obtain ⟨isLimit, enough, least⟩ := least_of_find? limits_ascending found
      refine .inl ⟨isLimit, of_decide_eq_true enough, ?_⟩
      exact fun limit member suits => least limit member (decide_eq_true suits)

/-- Asking for more samples leads to no lower limit. -/
theorem Bounds.le {more larger : Nat} (bounds : Bounds samples target value)
    (others : Bounds samples more larger) (order : target ≤ more) : value ≤ larger := by
  have words : ∀ limit ∈ limits, limit ≤ wordMax := by decide
  rcases bounds with ⟨isLimit, -, least⟩ | ⟨few, rfl⟩
  · rcases others with ⟨isLimit', enough, -⟩ | ⟨-, rfl⟩
    · exact least larger isLimit' (Nat.le_trans order enough)
    · exact words value isLimit
  · rcases others with ⟨isLimit, enough, -⟩ | ⟨-, rfl⟩
    · exact absurd (few larger isLimit) (Nat.not_lt.2 (Nat.le_trans order enough))
    · exact Nat.le_refl _

/-! ## Ranks -/

/-- Of ascending samples those within a limit come first. -/
theorem le_iff_lt_within (ascending : samples.Pairwise (· ≤ ·)) {place sample : Nat}
    (found : samples[place]? = some sample) (limit : Nat) :
    sample ≤ limit ↔ place < within samples limit := by
  induction samples generalizing place with
  | nil => cases found
  | cons first rest ih =>
      obtain ⟨least, ascending⟩ := List.pairwise_cons.1 ascending
      have above : first ≤ sample := by
        rcases List.mem_cons.1 (List.mem_of_getElem? found) with rfl | later
        · exact Nat.le_refl _
        · exact least sample later
      rw [within_cons]
      by_cases fits : first ≤ limit
      · rw [if_pos fits]
        cases place with
        | zero =>
            cases found
            exact iff_of_true fits (Nat.succ_pos _)
        | succ place =>
            rw [ih ascending found]
            exact Nat.succ_lt_succ_iff.symm
      -- No sample is within a limit that the first one exceeds.
      · have none : within rest limit = 0 := by
          refine List.countP_eq_zero.2 fun later member small => fits ?_
          exact Nat.le_trans (least later member) (of_decide_eq_true small)
        rw [if_neg fits, none]
        exact iff_of_false (fun small => fits (Nat.le_trans above small)) (Nat.not_lt_zero _)

/-- The sample of a rank is bounded from above, and lies above each lower limit. -/
theorem Bounds.ranked (bounds : Bounds samples target value)
    (words : ∀ sample ∈ samples, sample ≤ wordMax) (first : 1 ≤ target)
    (last : target ≤ samples.length) :
    ∃ sample, samples.mergeSort[target - 1]? = some sample ∧ sample ≤ value ∧
      ∀ limit ∈ limits, limit < value → limit < sample := by
  have ascending : samples.mergeSort.Pairwise (· ≤ ·) := List.pairwise_mergeSort' (· ≤ ·) samples
  have same : samples.mergeSort.Perm samples := List.mergeSort_perm _ _
  have inside : target - 1 < samples.mergeSort.length := by
    rw [same.length_eq]
    omega
  obtain ⟨sample, found⟩ : ∃ sample, samples.mergeSort[target - 1]? = some sample :=
    ⟨_, List.getElem?_eq_getElem inside⟩
  have rank : ∀ limit, sample ≤ limit ↔ target ≤ within samples limit := by
    intro limit
    have counted : within samples.mergeSort limit = within samples limit := same.countP_eq _
    rw [le_iff_lt_within ascending found, counted]
    omega
  have all : within samples wordMax = samples.length :=
    List.countP_eq_length.2 fun sample member => decide_eq_true (words sample member)
  refine ⟨sample, found, ?_⟩
  rcases bounds with ⟨-, enough, least⟩ | ⟨few, -⟩
  · refine ⟨(rank value).2 enough, ?_⟩
    intro limit member lower
    rw [← Nat.not_le, rank]
    exact fun suits => absurd (least limit member suits) (Nat.not_le.2 lower)
  · have tooFew := few wordMax (by decide)
    omega

/-! ## Extremes and average -/

theorem least_view_recordAll (words : ∀ sample ∈ samples, sample ≤ wordMax) :
    (empty.recordAll samples).view.least = samples.min?.getD 0 := by
  unfold view
  simp only [count_recordAll, least_recordAll]
  cases samples with
  | nil => rfl
  | cons first rest =>
      rw [List.min?_cons', List.foldl_cons, Option.getD_some]
      show (if 0 + (rest.length + 1) = 0 then 0 else rest.foldl min (min wordMax first)) = _
      rw [if_neg (by omega), Nat.min_eq_right (words first List.mem_cons_self)]

theorem greatest_view_recordAll (samples : List Nat) :
    (empty.recordAll samples).view.greatest = samples.max?.getD 0 := by
  show (empty.recordAll samples).greatest = _
  rw [greatest_recordAll]
  cases samples with
  | nil => rfl
  | cons first rest =>
      rw [List.max?_cons', List.foldl_cons, Option.getD_some]
      show rest.foldl max (max 0 first) = _
      rw [Nat.zero_max]

theorem average_recordAll (fits : samples.sum < wordSize) :
    (empty.recordAll samples).average = samples.sum / samples.length := by
  unfold average
  rw [sum_recordAll, count_recordAll, Nat.mod_eq_of_lt fits]
  exact congrArg (samples.sum / ·) (Nat.zero_add _)

/-- The average lies between the extremes. -/
theorem le_average (fits : samples.sum < wordSize) :
    samples.min?.getD 0 ≤ (empty.recordAll samples).average := by
  rw [average_recordAll fits]
  cases found : samples.min? with
  | none => exact Nat.zero_le _
  | some least =>
      obtain ⟨member, smallest⟩ := List.min?_eq_some_iff.1 found
      rw [Option.getD_some, Nat.le_div_iff_mul_le (List.length_pos_of_mem member), Nat.mul_comm]
      exact List.card_nsmul_le_sum samples least smallest

theorem average_le (fits : samples.sum < wordSize) :
    (empty.recordAll samples).average ≤ samples.max?.getD 0 := by
  rw [average_recordAll fits]
  cases found : samples.max? with
  | none =>
      rw [List.max?_eq_none_iff.1 found]
      exact Nat.le_refl _
  | some greatest =>
      obtain ⟨-, largest⟩ := List.max?_eq_some_iff.1 found
      exact Nat.div_le_of_le_mul (List.sum_le_card_nsmul samples greatest largest)

/-! ## Histograms -/

/-- What a histogram tells of the samples that it has taken. -/
structure Describes (histogram : Histogram) (samples : List Nat) : Prop where
  count : histogram.count = samples.length
  viewed : histogram.view = {
    count := samples.length
    sum := samples.sum % wordSize
    least := samples.min?.getD 0
    greatest := samples.max?.getD 0
    median := histogram.percentile .half
    percentile99 := histogram.percentile .ninetyNineHundredths }
  unasked : samples = [] → ∀ share, histogram.percentile share = 0
  bounds : samples ≠ [] → ∀ share,
    Bounds samples (histogram.target share) (histogram.percentile share)
  /-- The sample of the rank that a percentile asks for lies in the bucket that is told. -/
  ranked : ∀ share, 1 ≤ histogram.target share → histogram.target share ≤ samples.length →
    ∃ sample, samples.mergeSort[histogram.target share - 1]? = some sample ∧
      sample ≤ histogram.percentile share ∧
      ∀ limit ∈ limits, limit < histogram.percentile share → limit < sample
  monotone : ∀ share other, histogram.target share ≤ histogram.target other →
    histogram.percentile share ≤ histogram.percentile other
  /-- The order of the samples does not show. -/
  unordered : ∀ others, others.Perm samples → (empty.recordAll others).view = histogram.view
  average : samples.sum < wordSize →
    histogram.view.least ≤ histogram.average ∧ histogram.average ≤ histogram.view.greatest

/-- Every histogram describes the samples that it has taken, 64-bit words in any order. -/
theorem describes_recordAll (words : ∀ sample ∈ samples, sample < wordSize) :
    (empty.recordAll samples).Describes samples := by
  have words : ∀ sample ∈ samples, sample ≤ wordMax := fun sample member =>
    Nat.le_sub_one_of_lt (words sample member)
  have count : (empty.recordAll samples).count = samples.length :=
    (count_recordAll empty samples).trans (Nat.zero_add _)
  have unasked : samples = [] → ∀ share, (empty.recordAll samples).percentile share = 0 := by
    rintro rfl share
    rfl
  have bounds : samples ≠ [] → ∀ share, Bounds samples ((empty.recordAll samples).target share)
      ((empty.recordAll samples).percentile share) := bounds_percentile words
  constructor
  case count => exact count
  case viewed =>
    rw [← least_view_recordAll words, ← greatest_view_recordAll, ← sum_recordAll, ← count]
    rfl
  case unasked => exact unasked
  case bounds => exact bounds
  case ranked =>
    intro share first last
    have some : samples ≠ [] := List.length_pos_iff.1 (Nat.lt_of_lt_of_le first last)
    exact (bounds some share).ranked words first last
  case monotone =>
    intro share other order
    by_cases none : samples = []
    · rw [unasked none, unasked none]
    · exact (bounds none share).le (bounds none other) order
  case unordered =>
    intro others same
    rw [recordAll_perm empty same]
  case average =>
    intro fits
    rw [least_view_recordAll words, greatest_view_recordAll]
    exact ⟨le_average fits, average_le fits⟩

/-- Samples on a limit and next to it, and one in the open bucket. -/
theorem describes_recordAll_of_limits :
    (∀ sample ∈ [500, 501, 100001, 1000, 0], sample < wordSize) ∧
      (empty.recordAll [500, 501, 100001, 1000, 0]).Describes [500, 501, 100001, 1000, 0] ∧
      (empty.recordAll [500, 501, 100001, 1000, 0]).view = {
        count := 5, sum := 102002, least := 0, greatest := 100001
        median := 1000, percentile99 := wordMax } := by
  have words : ∀ sample ∈ [500, 501, 100001, 1000, 0], sample < wordSize := by decide
  exact ⟨words, describes_recordAll words, by decide +kernel⟩

end Histogram

end FlowSteer
