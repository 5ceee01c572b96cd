import Mathlib.Algebra.Ring.Nat
import Mathlib.Data.List.Induction
import FlowSteer.Histogram

/-!
# Buckets of a histogram

A bucket holds the samples between two neighbouring limits. Counted from the lowest bucket on, the
samples add up to the number of samples within each limit (`Accumulates`).

1. `Accumulates.limitReaching_eq`: a walk through such buckets finds the first limit within which
   there are enough samples.
2. `Accumulates.record`: one more sample, put into the first bucket that takes it, keeps this.
3. `accumulates_recordAll`: hence the buckets of every histogram add up.
4. `recordAll_perm`: the order of the samples does not matter.
-/

namespace FlowSteer

namespace Histogram

/-- Number of samples within a limit. -/
def within (samples : List Nat) (limit : Nat) : Nat := samples.countP (· ≤ limit)

/-- Counted on from a number, buckets add up to what is told for their limits. -/
def Accumulates (total : Nat → Nat) : (running : Nat) → (buckets : List (Nat × Nat)) → Prop
  | _, [] => True
  | running, (limit, count) :: rest =>
      total limit = running + count ∧ Accumulates total (running + count) rest

namespace Accumulates

variable {total after : Nat → Nat} {running : Nat} {limits counts : List Nat}

/-- The walk through the buckets stops at the first limit within which there is enough. -/
theorem limitReaching_eq {buckets : List (Nat × Nat)} (adds : Accumulates total running buckets)
    (target : Nat) :
    limitReaching target running buckets =
      ((buckets.map Prod.fst).find? (target ≤ total ·)).getD wordMax := by
  induction buckets generalizing running with
  | nil => rfl
  | cons bucket rest ih =>
      obtain ⟨limit, count⟩ := bucket
      obtain ⟨here, later⟩ := adds
      rw [limitReaching, List.map_cons, List.find?_cons, here]
      by_cases enough : target ≤ running + count
      · simp [enough]
      · simp [enough, ih later]

/-- One more within each limit is one more before the first bucket. -/
theorem raise (adds : Accumulates total running (limits.zip counts))
    (more : ∀ limit ∈ limits, after limit = total limit + 1) :
    Accumulates after (running + 1) (limits.zip counts) := by
  induction limits generalizing running counts with
  | nil => trivial
  | cons limit limits ih =>
      cases counts with
      | nil => trivial
      | cons count counts =>
          obtain ⟨here, later⟩ := adds
          have moved : running + 1 + count = running + count + 1 := by omega
          refine ⟨?_, ?_⟩
          · rw [more limit List.mem_cons_self, here, moved]
          · rw [moved]
            exact ih later fun other member => more other (List.mem_cons_of_mem _ member)

/-- A sample is counted in the first bucket whose limit is not below it, and so within this limit
and all that come after. -/
theorem record (adds : Accumulates total running (limits.zip counts))
    (ascending : limits.Pairwise (· ≤ ·)) {sample : Nat}
    (counted : ∀ limit, after limit = total limit + if sample ≤ limit then 1 else 0) :
    Accumulates after running
      (limits.zip (counts.modify (limits.findIdx (sample ≤ ·)) (· + 1))) := by
  induction limits generalizing running counts with
  | nil => trivial
  | cons limit limits ih =>
      cases counts with
      | nil =>
          rw [List.modify_nil, List.zip_nil_right]
          trivial
      | cons count counts =>
          obtain ⟨here, later⟩ := adds
          obtain ⟨least, ascending⟩ := List.pairwise_cons.1 ascending
          rw [List.findIdx_cons]
          by_cases takes : sample ≤ limit
          · have more : ∀ other ∈ limits, after other = total other + 1 := by
              intro other member
              rw [counted, if_pos (Nat.le_trans takes (least other member))]
            simp only [takes, decide_true, cond_true, List.modify_zero_cons, List.zip_cons_cons]
            refine ⟨?_, later.raise more⟩
            rw [counted, if_pos takes, here, Nat.add_assoc]
          · simp only [takes, decide_false, cond_false, List.modify_succ_cons, List.zip_cons_cons]
            refine ⟨?_, ih later ascending⟩
            rw [counted, if_neg takes, here, Nat.add_zero]

end Accumulates

/-! ## Histograms -/

variable {samples : List Nat} {sample : Nat}

theorem limits_ascending : limits.Pairwise (· < ·) := by decide

theorem bucketOf_of_le (word : sample ≤ wordMax) : bucketOf sample = limits.findIdx (sample ≤ ·) := by
  have found : limits.findIdx (sample ≤ ·) < limits.length :=
    List.findIdx_lt_length_of_exists ⟨wordMax, by decide, decide_eq_true word⟩
  exact Nat.min_eq_left (Nat.le_sub_one_of_lt found)

theorem within_cons (sample : Nat) (samples : List Nat) (limit : Nat) :
    within (sample :: samples) limit =
      within samples limit + if sample ≤ limit then 1 else 0 := by
  unfold within
  rw [List.countP_cons]
  simp only [decide_eq_true_eq]

theorem within_concat (samples : List Nat) (sample limit : Nat) :
    within (samples ++ [sample]) limit =
      within samples limit + if sample ≤ limit then 1 else 0 := by
  unfold within
  rw [List.countP_append, List.countP_singleton]
  simp only [decide_eq_true_eq]

theorem recordAll_concat (histogram : Histogram) (samples : List Nat) (sample : Nat) :
    histogram.recordAll (samples ++ [sample]) = (histogram.recordAll samples).record sample :=
  List.foldl_append

/-- The buckets add up to the number of samples within each limit. -/
theorem accumulates_recordAll (words : ∀ sample ∈ samples, sample ≤ wordMax) :
    Accumulates (within samples) 0 (limits.zip (empty.recordAll samples).buckets) := by
  induction samples using List.reverseRecOn with
  | nil => simp [Accumulates, within, recordAll, empty, limits]
  | append_singleton samples sample ih =>
      have earlier := ih fun other member => words other (List.mem_append_left _ member)
      rw [recordAll_concat]
      show Accumulates _ 0
        (limits.zip ((empty.recordAll samples).buckets.modify (bucketOf sample) (· + 1)))
      rw [bucketOf_of_le (words sample (by simp))]
      exact earlier.record (limits_ascending.imp Nat.le_of_lt) (within_concat samples sample)

theorem length_buckets_recordAll (histogram : Histogram) (samples : List Nat) :
    (histogram.recordAll samples).buckets.length = histogram.buckets.length := by
  induction samples generalizing histogram with
  | nil => rfl
  | cons sample rest ih => exact (ih (histogram.record sample)).trans (List.length_modify ..)

theorem count_recordAll (histogram : Histogram) (samples : List Nat) :
    (histogram.recordAll samples).count = histogram.count + samples.length := by
  induction samples generalizing histogram with
  | nil => rfl
  | cons sample rest ih =>
      have later := ih (histogram.record sample)
      rw [List.length_cons, Nat.add_comm rest.length, ← Nat.add_assoc]
      exact later

theorem sum_recordAll (samples : List Nat) :
    (empty.recordAll samples).sum = samples.sum % wordSize := by
  induction samples using List.reverseRecOn with
  | nil => rfl
  | append_singleton samples sample ih =>
      rw [recordAll_concat, List.sum_append, List.sum_singleton]
      show addWrapping (empty.recordAll samples).sum sample = _
      rw [ih]
      exact Nat.mod_add_mod _ _ _

theorem least_recordAll (histogram : Histogram) (samples : List Nat) :
    (histogram.recordAll samples).least = samples.foldl min histogram.least := by
  induction samples generalizing histogram with
  | nil => rfl
  | cons sample rest ih => exact ih (histogram.record sample)

theorem greatest_recordAll (histogram : Histogram) (samples : List Nat) :
    (histogram.recordAll samples).greatest = samples.foldl max histogram.greatest := by
  induction samples generalizing histogram with
  | nil => rfl
  | cons sample rest ih => exact ih (histogram.record sample)

theorem modify_comm (counts : List Nat) (first second : Nat) :
    (counts.modify first (· + 1)).modify second (· + 1) =
      (counts.modify second (· + 1)).modify first (· + 1) := by
  apply List.ext_getElem?
  intro place
  simp only [List.getElem?_modify, Option.map_eq_map, Option.map_map]
  congr 1
  funext count
  by_cases atFirst : first = place <;> by_cases atSecond : second = place <;>
    simp [atFirst, atSecond]

theorem record_comm (histogram : Histogram) (first second : Nat) :
    (histogram.record first).record second = (histogram.record second).record first := by
  unfold record addWrapping
  simp only [mk.injEq, true_and]
  refine ⟨modify_comm _ _ _, ?_, Nat.min_right_comm _ _ _, Nat.max_right_comm _ _ _⟩
  rw [Nat.mod_add_mod, Nat.mod_add_mod, Nat.add_right_comm]

/-- The order of the samples does not matter. -/
theorem recordAll_perm (histogram : Histogram) {samples others : List Nat}
    (same : samples.Perm others) : histogram.recordAll samples = histogram.recordAll others :=
  same.foldl_eq' (fun first _ second _ histogram => record_comm histogram first second) histogram

end Histogram

end FlowSteer
