import FlowSteer.Proofs.Failover.Replacement
import FlowSteer.Proofs.Registry.Upkeep

/-!
# Health passes and upkeep

A health pass reads statuses and error counters, and writes these. Upkeep of the queues changes
neither, so that a pass does the same before it as after it (`Upkept.checkHealth`): it finds the
same, and the states that it leaves are apart by the same upkeep. Only the number of flows that a
remap moves depends on how many flows there are, and of it the same is left as of the sizes of
tables (`Upkeep.recount`): all of it when every flow is kept, and nothing when flows are forgotten.

The proof goes through the parts of a pass: `Upkept.replacement`, `Upkept.remap`,
`Upkept.handleFailure`, `Upkept.switchStatus`, `Upkept.recover`.
-/

namespace FlowSteer

/-! ## Numbers of flows -/

/-- The remap with another count of the flows that it moved. -/
def Remap.recounted (recount : Nat → Nat) (remap : Remap) : Remap :=
  { remap with flowsMoved := recount remap.flowsMoved }

/-- The outcome with another count of the flows that were moved. -/
def RemapOutcome.recounted (recount : Nat → Nat) : RemapOutcome → RemapOutcome
  | remapped source target flowsMoved => remapped source target (recount flowsMoved)
  | outcome => outcome

namespace CheckReport

variable (recount : Nat → Nat)

/-- The report with another count of the flows that were moved. -/
def recounted (report : CheckReport) : CheckReport :=
  { report with failures := report.failures.map (RemapOutcome.recounted recount) }

/-- The report after one more failure. -/
def handled (report : CheckReport) : Except ControlError RemapOutcome → CheckReport
  | .ok outcome => { report with failures := report.failures ++ [outcome] }
  | .error _ => { report with errors := report.errors + 1 }

theorem recounted_id (report : CheckReport) : report.recounted id = report := by
  have same : RemapOutcome.recounted id = id := by
    funext outcome
    cases outcome <;> rfl
  unfold recounted
  rw [same, List.map_id]

theorem recounted_handled (report : CheckReport) (outcome : Except ControlError RemapOutcome) :
    (report.handled outcome).recounted recount =
      (report.recounted recount).handled (outcome.map (RemapOutcome.recounted recount)) := by
  cases outcome with
  | error error => rfl
  | ok outcome =>
      exact congrArg (fun failures => { report with failures }) List.map_append

end CheckReport

namespace Failover

variable {upkeep : Upkeep} {before after : Failover}

/-- Failover with other counts of the flows that were moved. -/
def recounted (recount : Nat → Nat) (failover : Failover) : Failover :=
  { failover with history := failover.history.map (Remap.recounted recount) }

theorem recounted_id (failover : Failover) : failover.recounted id = failover := by
  have same : Remap.recounted id = id := rfl
  unfold recounted
  rw [same, List.map_id]

/-- What failover remembers is the same but for counts of flows, and the later registry is the
earlier one after an upkeep of its queues. -/
structure Upkept (upkeep : Upkeep) (before after : Failover) : Prop where
  registry : before.registry.Upkept upkeep after.registry
  settings : after.settings = before.settings
  outages : after.outages = before.outages
  failovers : after.failovers = before.failovers
  history : after.history.map (Remap.recounted upkeep.recount) =
    before.history.map (Remap.recounted upkeep.recount)

/-- Two failures or remaps come to the same, but for the count of flows and an upkeep. -/
structure Alike (upkeep : Upkeep) (first second : Except ControlError RemapOutcome × Failover) :
    Prop where
  outcome : second.1.map (RemapOutcome.recounted upkeep.recount) =
    first.1.map (RemapOutcome.recounted upkeep.recount)
  left : first.2.Upkept upkeep second.2

/-- What looking at one queue finds and does, by the verdict on the counters that it showed. -/
theorem checkQueue_eq (settings : HealthSettings) (now : Nat) (state : CheckReport × Failover)
    (view : QueueView) :
    checkQueue settings now state view =
      let report := { state.1 with checked := state.1.checked + 1 }
      match settings.evaluate view.counters.rxErrors view.counters.txErrors with
      | .breached =>
          let handling := state.2.handleFailure view.queue now
          (report.handled handling.1, handling.2)
      | .degraded =>
          let switch := state.2.switchStatus view.queue .active .degraded
          (if switch.1 then { report with degraded := report.degraded ++ [view.queue] }
            else report, switch.2)
      | .healthy =>
          let switch := state.2.switchStatus view.queue .degraded .active
          (if switch.1 then { report with restored := report.restored ++ [view.queue] }
            else report, switch.2) := by
  unfold checkQueue
  cases settings.evaluate view.counters.rxErrors view.counters.txErrors with
  | breached =>
      simp only []
      cases result : state.2.handleFailure view.queue now with
      | mk outcome failover => cases outcome <;> rfl
  | degraded =>
      simp only []
      cases result : state.2.switchStatus view.queue .active .degraded with
      | mk changed failover => cases changed <;> rfl
  | healthy =>
      simp only []
      cases result : state.2.switchStatus view.queue .degraded .active with
      | mk changed failover => cases changed <;> rfl

/-- A status is switched when it is the expected one. -/
theorem switchStatus_fst (failover : Failover) (id : QueueId) (expected new : QueueStatus) :
    (failover.switchStatus id expected new).1 =
      ((failover.registry.queues.get? id).map (·.status) == some expected) := by
  unfold switchStatus Registry.updateStatus
  cases found : failover.registry.queues.get? id with
  | none =>
      rw [Registry.queue_of_absent found]
      rfl
  | some queue =>
      rw [Registry.queue_of_get? found]
      simp only [Queue.view, Option.map_some]
      by_cases same : queue.status = expected
      · simp [same]
      · simp [same]

namespace Upkept

theorem afterFailure (upkept : Upkept upkeep before after) (id : QueueId) (now : Nat) :
    after.afterFailure id now = before.afterFailure id now := by
  unfold Failover.afterFailure
  rw [upkept.outages]

theorem clearErrors (upkept : Upkept upkeep before after) (id : QueueId) (status : QueueStatus) :
    Upkept upkeep (before.clearErrors id status) (after.clearErrors id status) where
  registry := upkept.registry.clearErrors id status
  settings := upkept.settings
  outages := upkept.outages
  failovers := upkept.failovers
  history := upkept.history

theorem noteFailure (upkept : Upkept upkeep before after) (id : QueueId) (now : Nat)
    (status : QueueStatus) :
    Upkept upkeep (before.noteFailure id now status) (after.noteFailure id now status) := by
  have noted : Upkept upkeep (before.putOutage id (before.afterFailure id now))
      (after.putOutage id (after.afterFailure id now)) :=
    { upkept with
      outages := by
        show after.outages.insert id _ = before.outages.insert id _
        rw [upkept.afterFailure, upkept.outages] }
  exact noted.clearErrors id status

theorem pushHistory (upkept : Upkept upkeep before after) {remap other : Remap}
    (same : other.recounted upkeep.recount = remap.recounted upkeep.recount) :
    Upkept upkeep (before.pushHistory remap) (after.pushHistory other) where
  registry := upkept.registry
  settings := upkept.settings
  outages := upkept.outages
  failovers := upkept.failovers
  history := by
    have length := congrArg List.length upkept.history
    rw [List.length_map, List.length_map] at length
    unfold Failover.pushHistory
    simp only [List.map_drop, List.map_append, List.map_cons, List.map_nil, List.length_append,
      List.length_cons, List.length_nil, length, same, upkept.history, upkept.settings]

/-! ## Remaps -/

/-- The same queues can take over. -/
theorem candidate_iff (upkept : Upkept upkeep before after) {source target : QueueId}
    {targetQueue : Queue} :
    after.registry.Candidate source target targetQueue ↔
      ∃ queue, before.registry.Candidate source target queue ∧
        upkeep.queue target queue = targetQueue := by
  unfold Registry.Candidate
  rw [upkept.registry.queues, Option.map_eq_some_iff]
  constructor
  · rintro ⟨⟨queue, found, rfl⟩, different, serving⟩
    exact ⟨queue, ⟨found, different, serving⟩, rfl⟩
  · rintro ⟨queue, ⟨found, different, serving⟩, rfl⟩
    exact ⟨⟨queue, found, rfl⟩, different, serving⟩

theorem leastErrors (upkept : Upkept upkeep before after) {source target : QueueId}
    {targetQueue : Queue} (chosen : before.registry.LeastErrors source target targetQueue) :
    after.registry.LeastErrors source target (upkeep.queue target targetQueue) where
  candidate := upkept.candidate_iff.2 ⟨targetQueue, chosen.candidate, rfl⟩
  least := by
    intro other queue candidate
    obtain ⟨old, oldCandidate, rfl⟩ := upkept.candidate_iff.1 candidate
    have least := chosen.least oldCandidate
    exact least

/-- The same queue takes over. -/
theorem replacement (upkept : Upkept upkeep before after) (source : QueueId) :
    after.replacement source = before.replacement source := by
  cases found : before.replacement source with
  | ok target =>
      obtain ⟨targetQueue, chosen⟩ := replacement_eq_ok_iff.1 found
      exact replacement_eq_ok_iff.2 ⟨_, upkept.leastErrors chosen⟩
  | error error =>
      obtain ⟨named, none⟩ := replacement_eq_error_iff.1 found
      refine replacement_eq_error_iff.2 ⟨named, ?_⟩
      intro target targetQueue candidate
      obtain ⟨queue, old, -⟩ := upkept.candidate_iff.1 candidate
      exact none target queue old

theorem remapTarget (upkept : Upkept upkeep before after) (source : QueueId)
    (target? : Option QueueId) :
    after.remapTarget source target? = before.remapTarget source target? := by
  cases target? with
  | none => exact upkept.replacement source
  | some target => rfl

theorem remap (upkept : Upkept upkeep before after) (source : QueueId)
    (target? : Option QueueId) (cause : RemapCause) (now : Nat) :
    Alike upkeep (before.remap source target? cause now)
      (after.remap source target? cause now) := by
  unfold Failover.remap
  rw [upkept.remapTarget]
  cases before.remapTarget source target? with
  | error error => exact ⟨rfl, upkept⟩
  | ok target =>
      obtain ⟨allowed, moved⟩ := upkept.registry.moveAll source target
      simp only []
      cases first : before.registry.moveAll source target with
      | mk outcome registry =>
          cases second : after.registry.moveAll source target with
          | mk otherOutcome otherRegistry =>
              rw [first, second] at allowed moved
              cases outcome with
              | error error =>
                  cases otherOutcome with
                  | error otherError =>
                      cases allowed
                      exact ⟨rfl, upkept⟩
                  | ok _ => cases allowed
              | ok flowsMoved =>
                  cases otherOutcome with
                  | error _ => cases allowed
                  | ok otherMoved =>
                      have left : Upkept upkeep { before with registry }
                          { after with registry := otherRegistry } :=
                        { upkept with registry := moved }
                      have counts : upkeep.recount otherMoved = upkeep.recount flowsMoved :=
                        Except.ok.inj allowed
                      have outcomes := congrArg (RemapOutcome.remapped source target) counts
                      let made (flowsMoved : Nat) : Remap :=
                        { source, target, flowsMoved, cause, time := now }
                      have remaps := congrArg made counts
                      exact ⟨congrArg Except.ok outcomes,
                        (left.clearErrors source .recovering).pushHistory remaps⟩

/-! ## The parts of a pass -/

theorem handleFailure (upkept : Upkept upkeep before after) (id : QueueId) (now : Nat) :
    Alike upkeep (before.handleFailure id now) (after.handleFailure id now) := by
  cases found : before.registry.queues.get? id with
  | none =>
      have absent : after.registry.queues.get? id = none := by
        rw [upkept.registry.queues, found, Option.map_none]
      rw [handleFailure_of_absent found, handleFailure_of_absent absent]
      exact ⟨rfl, upkept⟩
  | some queue =>
      have foundAfter := upkept.registry.found found
      by_cases recovering : queue.status = .recovering
      · rw [handleFailure_of_recovering found recovering,
          handleFailure_of_recovering foundAfter recovering, upkept.afterFailure]
        exact ⟨rfl, upkept.noteFailure id now .recovering⟩
      · have noted := upkept.noteFailure id now .failed
        have cap : after.settings.maxFailoverCount.toNat ≤ after.failovers ↔
            before.settings.maxFailoverCount.toNat ≤ before.failovers := by
          rw [upkept.settings, upkept.failovers]
        by_cases capped : before.settings.maxFailoverCount.toNat ≤ before.failovers
        · rw [handleFailure_of_capped found recovering capped,
            handleFailure_of_capped foundAfter recovering (cap.2 capped), upkept.afterFailure]
          exact ⟨rfl, noted⟩
        · have uncapped := Nat.lt_of_not_le capped
          have uncappedAfter := Nat.lt_of_not_le (mt cap.1 capped)
          rw [handleFailure_of_uncapped found recovering uncapped,
            handleFailure_of_uncapped foundAfter recovering uncappedAfter]
          have remapped := noted.remap id none .automatic now
          cases first : (before.noteFailure id now .failed).remap id none .automatic now with
          | mk outcome left =>
              cases second : (after.noteFailure id now .failed).remap id none .automatic now with
              | mk otherOutcome otherLeft =>
                  rw [first, second] at remapped
                  obtain ⟨outcomes, left⟩ := remapped
                  cases outcome with
                  | error error =>
                      cases otherOutcome with
                      | error otherError =>
                          cases outcomes
                          exact ⟨rfl, left⟩
                      | ok _ => cases outcomes
                  | ok moved =>
                      cases otherOutcome with
                      | error _ => cases outcomes
                      | ok otherMoved =>
                          exact ⟨outcomes, { left with
                            failovers := congrArg (· + 1) left.failovers }⟩

theorem switchStatus (upkept : Upkept upkeep before after) (id : QueueId)
    (expected new : QueueStatus) :
    (after.switchStatus id expected new).1 = (before.switchStatus id expected new).1 ∧
      Upkept upkeep (before.switchStatus id expected new).2
        (after.switchStatus id expected new).2 := by
  constructor
  · rw [switchStatus_fst, switchStatus_fst, upkept.registry.queues, Option.map_map]
    rfl
  · rw [switchStatus_snd, switchStatus_snd, Registry.updateStatus_snd, Registry.updateStatus_snd]
    exact { upkept with registry := upkept.registry.adjust id (fun _ => rfl) fun _ => rfl }

theorem recover (upkept : Upkept upkeep before after) (now : Nat) :
    (after.recover now).1 = (before.recover now).1 ∧
      Upkept upkeep (before.recover now).2 (after.recover now).2 := by
  have same : ∀ outage, after.isOver now outage = before.isOver now outage := by
    intro outage
    unfold isOver
    rw [upkept.settings]
  have ids : (after.recover now).1 = (before.recover now).1 := by
    unfold Failover.recover
    simp only [same, upkept.outages]
  have registries : Registry.Upkept upkeep (before.recover now).2.registry
      (after.recover now).2.registry := by
    rw [recover_registry, recover_registry, ids]
    generalize (before.recover now).1 = ids
    have start := upkept.registry
    generalize before.registry = registry at start
    generalize after.registry = other at start
    induction ids generalizing registry other with
    | nil => exact start
    | cons id rest ih => exact ih _ _ (start.clearErrors id .active)
  refine ⟨ids, { upkept with registry := registries, outages := ?_ }⟩
  unfold Failover.recover
  simp only [same, upkept.outages]

/-! ## The pass -/

/-- What was found so far is the same but for counts of flows, and so is what is left. -/
structure Follows (upkeep : Upkeep) (first second : CheckReport × Failover) : Prop where
  report : second.1.recounted upkeep.recount = first.1.recounted upkeep.recount
  left : first.2.Upkept upkeep second.2

/-- Of what a queue shows, a pass looks at id and counters. -/
theorem Follows.checkQueue {first second : CheckReport × Failover}
    (follows : Follows upkeep first second) (settings : HealthSettings) (now : Nat)
    {view shown : QueueView} (queue : shown.queue = view.queue)
    (counters : shown.counters = view.counters) :
    Follows upkeep (Failover.checkQueue settings now first view)
      (Failover.checkQueue settings now second shown) := by
  have counted :
      ({ second.1 with checked := second.1.checked + 1 } : CheckReport).recounted upkeep.recount =
        ({ first.1 with checked := first.1.checked + 1 } : CheckReport).recounted upkeep.recount :=
    congrArg (fun report => { report with checked := report.checked + 1 }) follows.report
  rw [checkQueue_eq, checkQueue_eq, queue, counters]
  cases settings.evaluate view.counters.rxErrors view.counters.txErrors with
  | breached =>
      obtain ⟨outcome, left⟩ := follows.left.handleFailure view.queue now
      refine ⟨?_, left⟩
      simp only []
      rw [CheckReport.recounted_handled, CheckReport.recounted_handled, counted, outcome]
  | degraded =>
      obtain ⟨changed, left⟩ := follows.left.switchStatus view.queue .active .degraded
      refine ⟨?_, left⟩
      simp only []
      rw [changed]
      split
      · exact congrArg
          (fun report => { report with degraded := report.degraded ++ [view.queue] }) counted
      · exact counted
  | healthy =>
      obtain ⟨changed, left⟩ := follows.left.switchStatus view.queue .degraded .active
      refine ⟨?_, left⟩
      simp only []
      rw [changed]
      split
      · exact congrArg
          (fun report => { report with restored := report.restored ++ [view.queue] }) counted
      · exact counted

/-- A pass finds the same before an upkeep as after it, but for counts of flows, and what it leaves
is apart by the same upkeep. -/
theorem checkHealth (upkept : Upkept upkeep before after) (settings : HealthSettings)
    (now recoveryTime : Nat) :
    Follows upkeep (before.checkHealth settings now recoveryTime)
      (after.checkHealth settings now recoveryTime) := by
  unfold Failover.checkHealth
  rw [upkept.settings]
  by_cases disabled : (!before.settings.enabled) = true
  · rw [if_pos disabled, if_pos disabled]
    exact ⟨rfl, upkept⟩
  · rw [if_neg disabled, if_neg disabled]
    have queues : after.registry.queues = before.registry.queues.map upkeep.queue := by
      ext1 id
      rw [upkept.registry.queues, IdMap.get?_map]
    have looked : ∀ (entries : List (QueueId × Queue)) {first second : CheckReport × Failover},
        Follows upkeep first second →
        Follows upkeep
          ((entries.map fun entry => entry.2.view entry.1).foldl
            (Failover.checkQueue settings now) first)
          ((entries.map fun entry => (upkeep.queue entry.1 entry.2).view entry.1).foldl
            (Failover.checkQueue settings now) second) := by
      intro entries
      induction entries with
      | nil => exact fun follows => follows
      | cons entry rest ih =>
          intro first second follows
          exact ih (follows.checkQueue settings now rfl rfl)
    have views : after.registry.views = before.registry.queues.toList.map fun entry =>
        (upkeep.queue entry.1 entry.2).view entry.1 := by
      unfold Registry.views
      rw [queues]
      exact List.map_map
    rw [views]
    have start : Follows upkeep ({}, before) ({}, after) := ⟨rfl, upkept⟩
    have passed := looked before.registry.queues.toList start
    obtain ⟨recovered, left⟩ := passed.left.recover recoveryTime
    exact ⟨congrArg₂ (fun (report : CheckReport) ids => { report with recovered := ids })
      passed.report recovered, left⟩

/-- But for counts of flows, only the registry is another one. -/
theorem recounted_eq (upkept : Upkept upkeep before after) {registry : Registry}
    (same : before.registry.Upkept upkeep registry) :
    after.recounted upkeep.recount = { before with registry }.recounted upkeep.recount := by
  have registries := upkept.registry.unique same
  unfold Failover.recounted
  rw [registries, upkept.settings, upkept.outages, upkept.failovers, upkept.history]

end Upkept

end Failover

end FlowSteer
