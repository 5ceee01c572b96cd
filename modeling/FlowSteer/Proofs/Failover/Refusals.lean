import FlowSteer.Proofs.Failover.Replacement
import FlowSteer.Proofs.Runs

/-!
# Refused remaps by hand

A remap by hand is refused in two places, and what it leaves behind depends on the place:

* a request that names one queue twice, or a queue that is not there, is refused at once
  (`Misnamed`), and changes nothing;
* a request for which no queue in service can take over is refused by the remap itself
  (`Unserved`), when the source is out of service and on record already (`TakesOut`).

1. `remapByHand_eq_error_iff`: these are all refusals, each with its error.
2. `TakesOut.unchanged_iff`: a refusal of the second kind goes unnoticed only when the source was
   out of service before and its outage as recent.
3. `refused_remapByHand`: the two together.
-/

namespace FlowSteer

/-! ## Requests -/

namespace Registry

/-- The queues of a request are there, and are two queues when both are named. -/
structure Names (registry : Registry) (source : QueueId) (target? : Option QueueId) : Prop where
  sourceFound : ∃ queue, registry.queues.get? source = some queue
  targetFound : ∀ target, target? = some target →
    target ≠ source ∧ ∃ queue, registry.queues.get? target = some queue

/-- The request names one queue twice, or a queue that is not there. -/
inductive Misnamed (registry : Registry) : QueueId → Option QueueId → ControlError → Prop where
  | twice {source : QueueId} : Misnamed registry source (some source) (.sameQueue source)
  | noSource {source : QueueId} {target? : Option QueueId} (different : target? ≠ some source)
      (absent : registry.queues.get? source = none) :
      Misnamed registry source target? (.noSuchQueue source)
  | noTarget {source target : QueueId} {queue : Queue} (different : target ≠ source)
      (found : registry.queues.get? source = some queue)
      (absent : registry.queues.get? target = none) :
      Misnamed registry source (some target) (.noSuchQueue target)

/-- The queues of the request are there, but none that could take over is in service. -/
inductive Unserved (registry : Registry) : QueueId → Option QueueId → ControlError → Prop where
  | failedTarget {source target : QueueId} {queue targetQueue : Queue} (different : target ≠ source)
      (found : registry.queues.get? source = some queue)
      (targetFound : registry.queues.get? target = some targetQueue)
      (failed : targetQueue.isFailed = true) :
      Unserved registry source (some target) (.outOfService target)
  | noneLeft {source : QueueId} {queue : Queue} (found : registry.queues.get? source = some queue)
      (noCandidate : ∀ target targetQueue, ¬registry.Candidate source target targetQueue) :
      Unserved registry source none (.noReplacement source)

variable {registry : Registry} {source target : QueueId} {target? : Option QueueId}
  {queue targetQueue : Queue} {error : ControlError}

theorem Unserved.names (unserved : registry.Unserved source target? error) :
    registry.Names source target? := by
  cases unserved with
  | failedTarget different found targetFound _ =>
      refine ⟨⟨_, found⟩, ?_⟩
      rintro _ ⟨⟩
      exact ⟨different, _, targetFound⟩
  | noneLeft found _ =>
      refine ⟨⟨_, found⟩, ?_⟩
      rintro _ ⟨⟩

/-- A request is misnamed, or its queues are there. -/
theorem misnamed_or_names (registry : Registry) (source : QueueId) (target? : Option QueueId) :
    (∃ error, registry.Misnamed source target? error) ∨ registry.Names source target? := by
  by_cases same : target? = some source
  · rw [same]
    exact .inl ⟨_, .twice⟩
  · cases found : registry.queues.get? source with
    | none => exact .inl ⟨_, .noSource same found⟩
    | some queue =>
        cases target? with
        | none =>
            refine .inr ⟨⟨queue, found⟩, ?_⟩
            rintro _ ⟨⟩
        | some target =>
            have different : target ≠ source := fun equal => same (congrArg some equal)
            cases targetFound : registry.queues.get? target with
            | none => exact .inl ⟨_, .noTarget different found targetFound⟩
            | some targetQueue =>
                refine .inr ⟨⟨queue, found⟩, ?_⟩
                rintro _ ⟨⟩
                exact ⟨different, targetQueue, targetFound⟩

theorem Names.congr {before after : Registry} (names : before.Names source target?)
    (sourceFound : after.queues.get? source = some queue)
    (same : ∀ other, other ≠ source → after.queues.get? other = before.queues.get? other) :
    after.Names source target? where
  sourceFound := ⟨queue, sourceFound⟩
  targetFound := by
    intro target named
    obtain ⟨different, targetQueue, present⟩ := names.targetFound target named
    exact ⟨different, targetQueue, (same target different).trans present⟩

/-- Whether a request is served depends on the other queues, once the source is there. -/
theorem Unserved.congr {before after : Registry}
    (unserved : before.Unserved source target? error)
    (sourceFound : after.queues.get? source = some queue)
    (same : ∀ other, other ≠ source → after.queues.get? other = before.queues.get? other) :
    after.Unserved source target? error := by
  cases unserved with
  | failedTarget different _ targetFound failed =>
      exact .failedTarget different sourceFound ((same _ different).trans targetFound) failed
  | noneLeft _ noCandidate =>
      refine .noneLeft sourceFound ?_
      intro target targetQueue candidate
      exact noCandidate target targetQueue ((candidate_congr same target targetQueue).1 candidate)

end Registry

namespace Failover

variable {failover before after : Failover} {source target : QueueId} {target? : Option QueueId}
  {now : Nat} {queue targetQueue : Queue} {error : ControlError}

/-- Once its queues are there, a request is unserved or a queue can take over. -/
theorem unserved_or_candidate (names : failover.registry.Names source target?) :
    (∃ error, failover.registry.Unserved source target? error) ∨
      ∃ target targetQueue, failover.remapTarget source target? = .ok target ∧
        failover.registry.Candidate source target targetQueue := by
  obtain ⟨⟨queue, found⟩, targetFound⟩ := names
  cases target? with
  | none =>
      cases chosen : failover.replacement source with
      | error error =>
          obtain ⟨-, noCandidate⟩ := replacement_eq_error_iff.1 chosen
          exact .inl ⟨_, .noneLeft found noCandidate⟩
      | ok target =>
          obtain ⟨targetQueue, least⟩ := replacement_eq_ok_iff.1 chosen
          exact .inr ⟨target, targetQueue, chosen, least.candidate⟩
  | some target =>
      obtain ⟨different, targetQueue, present⟩ := targetFound target rfl
      cases failed : targetQueue.isFailed with
      | true => exact .inl ⟨_, .failedTarget different found present failed⟩
      | false => exact .inr ⟨target, targetQueue, rfl, present, different, failed⟩

theorem checkRemap_of_misnamed (misnamed : failover.registry.Misnamed source target? error) :
    failover.checkRemap source target? = .error error := by
  unfold checkRemap
  cases misnamed with
  | twice => exact if_pos rfl
  | noSource different absent => rw [if_neg different, Registry.queue_of_absent absent]
  | noTarget different found absent =>
      rw [if_neg fun same => different (Option.some.inj same), Registry.queue_of_get? found]
      simp only [Registry.queue_of_absent absent]
      rfl

theorem checkRemap_of_names (names : failover.registry.Names source target?) :
    failover.checkRemap source target? = .ok () := by
  obtain ⟨⟨queue, found⟩, targetFound⟩ := names
  unfold checkRemap
  rw [if_neg fun same => (targetFound source same).1 rfl, Registry.queue_of_get? found]
  cases target? with
  | none => rfl
  | some target =>
      obtain ⟨-, targetQueue, present⟩ := targetFound target rfl
      simp only [Registry.queue_of_get? present]
      rfl

theorem remap_of_unserved (unserved : failover.registry.Unserved source target? error)
    (cause : RemapCause) (now : Nat) :
    failover.remap source target? cause now = (.error error, failover) := by
  unfold remap
  cases unserved with
  | failedTarget different found targetFound failed =>
      unfold remapTarget Registry.moveAll
      simp only [Registry.moveEnds_eq, if_neg different.symm, Registry.queue_of_get? found,
        Registry.queue_of_get? targetFound, failed, if_true]
  | noneLeft found noCandidate =>
      have chosen : failover.replacement source = .error (.noReplacement source) :=
        replacement_eq_error_iff.2 ⟨rfl, noCandidate⟩
      unfold remapTarget
      simp only [chosen]

theorem remap_of_candidate (found : failover.registry.queues.get? source = some queue)
    (candidate : failover.registry.Candidate source target targetQueue)
    (chosen : failover.remapTarget source target? = .ok target) (cause : RemapCause) (now : Nat) :
    (failover.remap source target? cause now).1 =
      .ok (.remapped source target queue.flows.entries.length) := by
  unfold remap Registry.moveAll
  simp only [chosen, moveEnds_of_candidate found candidate]

/-! ## Refusals -/

theorem remapByHand_of_misnamed (misnamed : failover.registry.Misnamed source target? error)
    (now : Nat) : failover.remapByHand source target? now = (.error error, failover) := by
  unfold remapByHand
  rw [checkRemap_of_misnamed misnamed]

theorem remapByHand_of_names (names : failover.registry.Names source target?) (now : Nat) :
    failover.remapByHand source target? now =
      (failover.noteManual source now).remap source target? .manual now := by
  unfold remapByHand
  rw [checkRemap_of_names names]
  rfl

/-- The source is out of service and on record; its status is all of it that has changed. -/
def TakesOut (before after : Failover) (source : QueueId) (now : Nat) : Prop :=
  before.Notes after source ({ · with status := .failed }) (before.afterManual source now)

/-- The source is out of service already, with an outage that goes on from now. -/
def IsOut (failover : Failover) (source : QueueId) (now : Nat) : Prop :=
  (∃ queue, failover.registry.queues.get? source = some queue ∧ queue.status = .failed) ∧
    ∃ outage, failover.outages.get? source = some outage ∧ outage.lastFailure = now

/-- Taking a queue out changes something, unless the queue is out already. -/
theorem TakesOut.unchanged_iff (takesOut : before.TakesOut after source now) :
    after = before ↔ before.IsOut source now := by
  obtain ⟨⟨queue, found⟩, rfl⟩ := notes_iff.1 takesOut
  constructor
  · intro unchanged
    rw [TakesOut, unchanged] at takesOut
    obtain ⟨_, _, changed⟩ := takesOut.changed
    refine ⟨⟨_, changed, rfl⟩, _, takesOut.recorded, ?_⟩
    unfold afterManual
    cases before.outages.get? source <;> rfl
  · rintro ⟨⟨failedQueue, present, failed⟩, outage, recorded, recent⟩
    have same : before.afterManual source now = outage := by
      unfold afterManual
      rw [recorded, ← recent]
    have unchanged : { failedQueue with status := .failed } = failedQueue := by
      rw [← failed]
    rw [same, IdMap.insert_of_get? recorded, Registry.adjust_of_get? present, unchanged,
      Registry.putQueue_self present]

theorem remapByHand_of_unserved (unserved : failover.registry.Unserved source target? error)
    (now : Nat) :
    failover.remapByHand source target? now = (.error error, failover.noteManual source now) := by
  rw [remapByHand_of_names unserved.names]
  have takesOut : failover.TakesOut _ source now := Notes.noteManual unserved.names.sourceFound now
  obtain ⟨_, _, changed⟩ := takesOut.changed
  exact remap_of_unserved (unserved.congr changed takesOut.otherQueues) .manual now

/-- All refusals of a remap by hand, each with its error and with what it leaves. -/
theorem remapByHand_eq_error_iff :
    failover.remapByHand source target? now = (.error error, after) ↔
      (failover.registry.Misnamed source target? error ∧ after = failover) ∨
        (failover.registry.Unserved source target? error ∧
          failover.TakesOut after source now) := by
  constructor
  · intro refused
    rcases failover.registry.misnamed_or_names source target? with ⟨_, misnamed⟩ | names
    · cases (remapByHand_of_misnamed misnamed now).symm.trans refused
      exact .inl ⟨misnamed, rfl⟩
    · have takesOut : failover.TakesOut _ source now := Notes.noteManual names.sourceFound now
      obtain ⟨queue, found, changed⟩ := takesOut.changed
      rw [remapByHand_of_names names] at refused
      -- The remap sees the source failed already, but only the other queues decide.
      rcases unserved_or_candidate (names.congr changed takesOut.otherQueues) with
        ⟨_, unserved⟩ | ⟨target, targetQueue, chosen, candidate⟩
      · cases (remap_of_unserved unserved .manual now).symm.trans refused
        exact .inr ⟨unserved.congr found fun other different =>
          (takesOut.otherQueues other different).symm, takesOut⟩
      · have served := remap_of_candidate changed candidate chosen .manual now
        rw [refused] at served
        cases served
  · rintro (⟨misnamed, rfl⟩ | ⟨unserved, takesOut⟩)
    · exact remapByHand_of_misnamed misnamed now
    · rw [takesOut.unique (Notes.noteManual unserved.names.sourceFound now)]
      exact remapByHand_of_unserved unserved now

/-- All refusals of a remap by hand, and those that change nothing: the misnamed requests, and the
others only when the source is out already. -/
theorem refused_remapByHand (failover : Failover) (source : QueueId) (target? : Option QueueId)
    (now : Nat) (error : ControlError) (after : Failover) :
    (failover.remapByHand source target? now = (.error error, after) ↔
      (failover.registry.Misnamed source target? error ∧ after = failover) ∨
        (failover.registry.Unserved source target? error ∧
          failover.TakesOut after source now)) ∧
      (failover.remapByHand source target? now = (.error error, failover) ↔
        failover.registry.Misnamed source target? error ∨
          (failover.registry.Unserved source target? error ∧ failover.IsOut source now)) := by
  refine ⟨remapByHand_eq_error_iff, ?_⟩
  rw [remapByHand_eq_error_iff]
  constructor
  · rintro (⟨misnamed, -⟩ | ⟨unserved, takesOut⟩)
    · exact .inl misnamed
    · exact .inr ⟨unserved, takesOut.unchanged_iff.1 rfl⟩
  · rintro (misnamed | ⟨unserved, isOut⟩)
    · exact .inl ⟨misnamed, rfl⟩
    · have takesOut : failover.TakesOut _ source now :=
        Notes.noteManual unserved.names.sourceFound now
      have unchanged := takesOut.unchanged_iff.2 isOut
      rw [unchanged] at takesOut
      exact .inr ⟨unserved, takesOut⟩

end Failover

/-- A queue in service is asked to hand over to one that is out of service. The request is refused,
and the queue is left out of service and on record. -/
theorem System.taken_out_by_refused_remap :
    let system := (fresh {
        capacity := 4, maxFlows := 8, buffersPerNode := 4, ringCapacity := 3
        failover := { maxFailoverCount := 0 } }).run
      [.registry (.register 0 0), .registry (.register 1 0), .failover (.handleFailure 1)]
    let after := (system.failover.remapByHand 0 (some 1) system.clock.now).2
    (system.failover.remapByHand 0 (some 1) system.clock.now).1 = .error (.outOfService 1) ∧
      system.registry.status 0 = .ok .active ∧ system.failover.outages.get? 0 = none ∧
      after.registry.status 0 = .ok .failed ∧
      after.outages.get? 0 = some { failures := 1, lastFailure := 0, since := 0 } ∧
      after ≠ system.failover := by
  intro system after
  exact ⟨rfl, rfl, rfl, rfl, rfl, by decide⟩

end FlowSteer
