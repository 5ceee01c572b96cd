import FlowSteer.Proofs.Failover.Remaps

/-!
# Which queue takes over

The target of a remap that names none is chosen among the other queues in service: the one with the
fewest errors, and among equals the one with the lowest id (`LeastErrors`).

* `replacement_eq_ok_iff`: a queue is chosen exactly when it is this one;
* `replacement_eq_error_iff`: none is chosen exactly when every other queue is out of service;
* `moveEnds_of_candidate`: a move to a queue that can take over is never refused.
-/

namespace FlowSteer

/-- The view shows fewer errors than another, or as many under an id that is no higher. -/
def QueueView.Precedes (view other : QueueView) : Prop :=
  view.counters.errors < other.counters.errors ∨
    view.counters.errors = other.counters.errors ∧ view.queue ≤ other.queue

namespace Failover

theorem foldl_fewestErrors {first : QueueView} {rest : List QueueView}
    (ascending : (first :: rest).Pairwise (fun left right => left.queue < right.queue)) :
    (rest.foldl (fun best next =>
        if next.counters.errors < best.counters.errors then next else best) first) ∈
      first :: rest ∧
    ∀ view ∈ first :: rest, (rest.foldl (fun best next =>
        if next.counters.errors < best.counters.errors then next else best) first).Precedes
      view := by
  induction rest generalizing first with
  | nil => simp [QueueView.Precedes]
  | cons next rest ih =>
      simp only [List.pairwise_cons, List.mem_cons, forall_eq_or_imp] at ascending
      obtain ⟨⟨firstLower, firstBefore⟩, nextBefore, ascendingRest⟩ := ascending
      rw [List.foldl_cons]
      by_cases fewer : next.counters.errors < first.counters.errors
      · rw [if_pos fewer]
        obtain ⟨member, best⟩ := ih (List.pairwise_cons.2 ⟨nextBefore, ascendingRest⟩)
        refine ⟨List.mem_cons_of_mem _ member, ?_⟩
        intro view listed
        rcases List.mem_cons.1 listed with rfl | later
        · have beforeNext := best next List.mem_cons_self
          unfold QueueView.Precedes at beforeNext ⊢
          omega
        · exact best view later
      · rw [if_neg fewer]
        obtain ⟨member, best⟩ := ih (List.pairwise_cons.2 ⟨firstBefore, ascendingRest⟩)
        refine ⟨?_, ?_⟩
        · rcases List.mem_cons.1 member with isFirst | later
          · exact List.mem_cons.2 (.inl isFirst)
          · exact List.mem_cons_of_mem _ (List.mem_cons_of_mem _ later)
        · intro view listed
          have beforeFirst := best first List.mem_cons_self
          simp only [List.mem_cons] at listed
          rcases listed with rfl | rfl | later
          · exact beforeFirst
          · have noFewer := Nat.not_lt.1 fewer
            rcases beforeFirst with less | ⟨equal, lower⟩
            · exact .inl (Nat.lt_of_lt_of_le less noFewer)
            · -- Of equals the first one stays, and it has the lower id.
              unfold QueueView.Precedes
              rw [equal]
              exact (Nat.lt_or_eq_of_le noFewer).imp_right fun same =>
                ⟨same, Nat.le_trans lower (Nat.le_of_lt firstLower)⟩
          · exact best view (List.mem_cons_of_mem _ later)

theorem fewestErrors_of_some {views : List QueueView}
    (ascending : views.Pairwise (fun left right => left.queue < right.queue)) {best : QueueView}
    (chosen : fewestErrors views = some best) :
    best ∈ views ∧ ∀ view ∈ views, best.Precedes view := by
  cases views with
  | nil => cases chosen
  | cons first rest =>
      cases chosen
      exact foldl_fewestErrors ascending

theorem fewestErrors_eq_none_iff {views : List QueueView} :
    fewestErrors views = none ↔ views = [] := by
  cases views <;> simp [fewestErrors]

end Failover

namespace Registry

variable {registry : Registry} {source target other : QueueId} {queue targetQueue : Queue}

/-- The queue can take over from a source: it is another queue, in service. -/
def Candidate (registry : Registry) (source target : QueueId) (targetQueue : Queue) : Prop :=
  registry.queues.get? target = some targetQueue ∧ target ≠ source ∧
    targetQueue.isFailed = false

/-- Of the queues that can take over from a source, the target has the fewest errors, and among
equals the lowest id. -/
structure LeastErrors (registry : Registry) (source target : QueueId) (targetQueue : Queue) :
    Prop where
  candidate : registry.Candidate source target targetQueue
  least : ∀ {other queue}, registry.Candidate source other queue →
    targetQueue.counters.errors < queue.counters.errors ∨
      targetQueue.counters.errors = queue.counters.errors ∧ target ≤ other

theorem LeastErrors.unique {otherQueue : Queue}
    (first : registry.LeastErrors source target targetQueue)
    (second : registry.LeastErrors source other otherQueue) : target = other := by
  rcases first.least second.candidate with firstLess | ⟨_, firstLower⟩
  · rcases second.least first.candidate with secondLess | ⟨equal, _⟩ <;> omega
  · rcases second.least first.candidate with secondLess | ⟨_, secondLower⟩
    · omega
    · exact Nat.le_antisymm firstLower secondLower

/-- Who can take over, and who does, depends on the other queues alone. -/
theorem candidate_congr {before after : Registry}
    (same : ∀ other, other ≠ source → after.queues.get? other = before.queues.get? other)
    (target : QueueId) (targetQueue : Queue) :
    after.Candidate source target targetQueue ↔ before.Candidate source target targetQueue := by
  unfold Candidate
  by_cases isSource : target = source
  · simp [isSource]
  · rw [same target isSource]

theorem LeastErrors.congr {before after : Registry}
    (same : ∀ other, other ≠ source → after.queues.get? other = before.queues.get? other)
    (chosen : after.LeastErrors source target targetQueue) :
    before.LeastErrors source target targetQueue where
  candidate := (candidate_congr same target targetQueue).1 chosen.candidate
  least := fun {other queue} candidate =>
    chosen.least ((candidate_congr same other queue).2 candidate)

/-- The views among which a replacement is chosen. -/
def candidates (registry : Registry) (source : QueueId) : List QueueView :=
  registry.views.filter fun view => view.queue != source && view.status != .failed

theorem candidates_ascending (registry : Registry) (source : QueueId) :
    (registry.candidates source).Pairwise (fun left right => left.queue < right.queue) := by
  apply List.Pairwise.filter
  unfold views
  rw [List.pairwise_map]
  exact registry.queues.ascending

theorem mem_candidates_iff {view : QueueView} :
    view ∈ registry.candidates source ↔
      ∃ target queue, registry.Candidate source target queue ∧ view = queue.view target := by
  unfold candidates views
  rw [List.mem_filter, List.mem_map]
  constructor
  · rintro ⟨⟨⟨target, queue⟩, listed, rfl⟩, passes⟩
    simp only [Queue.view, Bool.and_eq_true, bne_iff_ne, ne_eq] at passes
    obtain ⟨different, serving⟩ := passes
    exact ⟨target, queue, ⟨IdMap.get?_eq_some_iff.2 listed, different,
      beq_eq_false_iff_ne.2 serving⟩, rfl⟩
  · rintro ⟨target, queue, ⟨found, different, serving⟩, rfl⟩
    refine ⟨⟨(target, queue), IdMap.get?_eq_some_iff.1 found, rfl⟩, ?_⟩
    simp only [Queue.view, Bool.and_eq_true, bne_iff_ne, ne_eq]
    exact ⟨different, beq_eq_false_iff_ne.1 serving⟩

end Registry

namespace Failover

variable {failover : Failover} {source target : QueueId}

theorem replacement_of_none
    (noneLeft : fewestErrors (failover.registry.candidates source) = none) :
    failover.replacement source = .error (.noReplacement source) := by
  unfold Registry.candidates at noneLeft
  unfold replacement
  rw [noneLeft]

theorem replacement_of_some {best : QueueView}
    (chosen : fewestErrors (failover.registry.candidates source) = some best) :
    failover.replacement source = .ok best.queue := by
  unfold Registry.candidates at chosen
  unfold replacement
  rw [chosen]

/-- No queue is chosen exactly when every other queue is out of service. -/
theorem replacement_eq_error_iff {error : ControlError} :
    failover.replacement source = .error error ↔
      error = .noReplacement source ∧
        ∀ target queue, ¬failover.registry.Candidate source target queue := by
  have none_iff : fewestErrors (failover.registry.candidates source) = none ↔
      ∀ target queue, ¬failover.registry.Candidate source target queue := by
    rw [fewestErrors_eq_none_iff, List.eq_nil_iff_forall_not_mem]
    constructor
    · intro empty target queue candidate
      exact empty _ (Registry.mem_candidates_iff.2 ⟨target, queue, candidate, rfl⟩)
    · intro none view listed
      obtain ⟨target, queue, candidate, -⟩ := Registry.mem_candidates_iff.1 listed
      exact none target queue candidate
  rw [← none_iff]
  cases chosen : fewestErrors (failover.registry.candidates source) with
  | none => simp [replacement_of_none chosen, eq_comm]
  | some best => simp [replacement_of_some chosen]

/-- The queue that is chosen is the one with the fewest errors. -/
theorem replacement_eq_ok_iff :
    failover.replacement source = .ok target ↔
      ∃ targetQueue, failover.registry.LeastErrors source target targetQueue := by
  have sound : ∀ {target}, failover.replacement source = .ok target →
      ∃ targetQueue, failover.registry.LeastErrors source target targetQueue := by
    intro target found
    cases chosen : fewestErrors (failover.registry.candidates source) with
    | none => cases (replacement_of_none chosen).symm.trans found
    | some best =>
        rw [replacement_of_some chosen] at found
        obtain ⟨listed, first⟩ := fewestErrors_of_some
          (failover.registry.candidates_ascending source) chosen
        obtain ⟨named, queue, candidate, rfl⟩ := Registry.mem_candidates_iff.1 listed
        cases found
        refine ⟨queue, candidate, ?_⟩
        intro other otherQueue otherCandidate
        exact first _ (Registry.mem_candidates_iff.2 ⟨other, otherQueue, otherCandidate, rfl⟩)
  constructor
  · exact sound
  · rintro ⟨targetQueue, chosen⟩
    cases found : failover.replacement source with
    | error error =>
        exact absurd chosen.candidate ((replacement_eq_error_iff.1 found).2 target targetQueue)
    | ok other =>
        obtain ⟨otherQueue, otherChosen⟩ := sound found
        rw [chosen.unique otherChosen]

/-- The checks of a remap to a queue that can take over are all passed. -/
theorem moveEnds_of_candidate {registry : Registry} {sourceQueue targetQueue : Queue}
    (found : registry.queues.get? source = some sourceQueue)
    (candidate : registry.Candidate source target targetQueue) :
    registry.moveEnds source target = .ok (sourceQueue, targetQueue) := by
  obtain ⟨targetFound, different, serving⟩ := candidate
  exact Registry.moveEnds_eq_ok_iff.2 ⟨different.symm, found, targetFound, serving⟩

end Failover

end FlowSteer
