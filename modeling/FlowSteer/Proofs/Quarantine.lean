import FlowSteer.Proofs.CircuitBreaker
import FlowSteer.Proofs.Failover.Quarantine

/-!
# Quarantine

A queue whose failure is handled, or that is remapped by hand, stays failed or recovering until the
recovery window has passed: only a recovery puts it back into service, and only after more than the
window since the last such event (`System.Quarantines`).

1. `System.step_cases`: an operation prolongs outages, and may end with a recovery.
2. `System.sidelined_run`: so a queue stays sidelined, or the window has passed.
3. `System.quarantines_run`: runs quarantine every queue that no direct change of status spares
   from it. That condition cannot be left out: `System.released_by_updateStatus`.
-/

namespace FlowSteer

namespace Operation

/-- The operation sets no status past failover, goes by the clock where it recovers queues, and
leaves the recovery window as it is. -/
def Orderly (window : Nat) (system : System) : Operation → Prop
  | registry (.setStatus ..) | registry (.clearErrors ..) => False
  | failover (.setSettings settings) => settings.recoveryWindowMs.toNat = window
  | failover (.recover time) | failover (.checkHealth _ time) => time = system.clock.now
  | _ => True

/-- A direct change of status does not take a queue out of quarantine. -/
def Respects (id : QueueId) (system : System) : Operation → Prop
  | registry (.updateStatus other choose) =>
      system.registry.Ailing id → (system.registry.updateStatus other choose).2.Ailing id
  | _ => True

end Operation

namespace System

/-- The queues that an operation puts back into service after an outage. -/
def recoveredAt (system : System) : Operation → List QueueId
  | .failover (.recover time) => (system.failover.recover time).1
  | .failover (.checkHealth settings time) =>
      (system.failover.checkHealth settings system.clock.now time).1.recovered
  | _ => []

/-- A failure of a queue is handled, or a remap of it by hand is accepted. Whether its flows can be
moved does not matter. -/
def Sidelines (system : System) (id : QueueId) (operation : Operation) : Prop :=
  (∃ handling ∈ system.handlingsAt operation, handling.queue = id ∧ handling.Present) ∨
    ∃ target?, operation = .failover (.remapByHand id target?) ∧
      system.failover.checkRemap id target? = .ok ()

open Operation (Orderly Respects)
open Failover (Prolongs Sidelined)

variable {system : System} {operation : Operation} {operations : List Operation}
  {window since : Nat} {id : QueueId}

/-! ## Steps -/

theorem window_step (orderly : operation.Orderly window system)
    (inForce : system.failover.settings.recoveryWindowMs.toNat = window) :
    (system.step operation).failover.settings.recoveryWindowMs.toNat = window := by
  rw [settings_step]
  cases operation with
  | failover op =>
      cases op with
      | setSettings settings => exact orderly
      | _ => exact inForce
  | _ => exact inForce

/-- Operations on the registry leave quarantined queues there. -/
theorem ailing_registry {op : RegistryOp} (orderly : Orderly window system (.registry op))
    (respects : Respects id system (.registry op)) (ailing : system.registry.Ailing id) :
    (system.step (.registry op)).registry.Ailing id := by
  cases direct : op.setsStatus with
  | false => exact (system.registry.ailing_registryOp system.clock.now op direct id).2 ailing
  | true =>
      cases op with
      | setStatus other status => exact orderly.elim
      | clearErrors other status => exact orderly.elim
      | updateStatus other choose => exact respects ailing
      | _ => cases direct

/-- An operation prolongs outages, and may end with a recovery. -/
theorem step_cases (orderly : operation.Orderly window system)
    (respects : operation.Respects id system) :
    (Prolongs system.clock.now id system.failover (system.step operation).failover ∧
      system.recoveredAt operation = []) ∨
    ∃ looked, Prolongs system.clock.now id system.failover looked ∧
      looked.settings = system.failover.settings ∧
      (system.step operation).failover = (looked.recover system.clock.now).2 ∧
      system.recoveredAt operation = (looked.recover system.clock.now).1 := by
  cases operation with
  | registry op => exact .inl ⟨.of_outages rfl (ailing_registry orderly respects), rfl⟩
  | link op => exact .inl ⟨.of_outages rfl (op.ailing_apply system.link id).2, rfl⟩
  | failover op =>
      cases op with
      | setSettings settings => exact .inl ⟨.of_outages rfl fun ailing => ailing, rfl⟩
      | handleFailure other => exact .inl ⟨.handleFailure system.failover other _ id, rfl⟩
      | remapByHand source target? =>
          exact .inl ⟨.remapByHand system.failover source target? _ id, rfl⟩
      | placeFlow flow target => exact .inl ⟨.placeFlow system.failover flow target, rfl⟩
      | recover time =>
          obtain rfl : time = system.clock.now := orderly
          exact .inr ⟨system.failover, .refl _ id system.failover, rfl, rfl, rfl⟩
      | checkHealth settings time =>
          obtain rfl : time = system.clock.now := orderly
          show (Prolongs _ id system.failover (system.failover.checkHealth settings _ _).2 ∧
            (system.failover.checkHealth settings _ _).1.recovered = []) ∨ _
          cases enabled : system.failover.settings.enabled with
          | false =>
              unfold Failover.checkHealth
              rw [enabled]
              exact .inl ⟨.refl _ id system.failover, rfl⟩
          | true =>
              have looks : system.failover.checkHealth settings system.clock.now system.clock.now =
                _ := Failover.checkHealth_of_enabled enabled settings _ _
              refine .inr ⟨_, .foldl_checkQueue settings system.clock.now ({}, system.failover)
                system.registry.views id, ?_, congrArg Prod.snd looks, ?_⟩
              · exact Failover.settings_foldl_checkQueue settings _ _ _
              · exact congrArg (fun result => result.1.recovered) looks
  | applyRate request =>
      exact .inl ⟨.placed (system.limits.apply_cases system.failover request), rfl⟩
  | applyLine line =>
      exact .inl ⟨.placed (system.limits.applyLine_cases system.failover line), rfl⟩
  | _ => exact .inl ⟨.refl _ id system.failover, rfl⟩

/-- A queue stays sidelined, unless the window has passed. -/
theorem sidelined_step (orderly : operation.Orderly window system)
    (respects : operation.Respects id system)
    (inForce : system.failover.settings.recoveryWindowMs.toNat = window)
    (sidelined : system.failover.Sidelined id since) (passed : since ≤ system.clock.now) :
    (system.step operation).failover.Sidelined id since ∨ since + window < system.clock.now := by
  rcases step_cases orderly respects with ⟨prolongs, -⟩ | ⟨looked, prolongs, same, result, -⟩
  · exact .inl (sidelined.prolong passed prolongs)
  · have kept := sidelined.prolong passed prolongs
    rw [result]
    by_cases recovered : id ∈ (looked.recover system.clock.now).1
    · have late := kept.late recovered
      rw [same, inForce] at late
      exact .inr late
    · exact .inl (kept.recover recovered)

/-- Only a recovery puts a queue back into service. -/
theorem mem_recoveredAt_of_released (orderly : operation.Orderly window system)
    (respects : operation.Respects id system) (ailing : system.registry.Ailing id)
    (released : ¬(system.step operation).registry.Ailing id) :
    id ∈ system.recoveredAt operation := by
  rcases step_cases orderly respects with ⟨prolongs, -⟩ | ⟨looked, prolongs, -, result, recovered⟩
  · exact absurd (prolongs.ailing ailing) released
  · rw [recovered]
    refine Decidable.byContradiction fun unrecovered => ?_
    have kept : (system.step operation).failover.registry.Ailing id := by
      rw [result]
      exact Failover.ailing_recover (prolongs.ailing ailing) unrecovered
    exact released kept

/-- A queue that a recovery returns is in service, and was not sidelined within the window. -/
theorem of_mem_recoveredAt (orderly : operation.Orderly window system)
    (respects : operation.Respects id system)
    (inForce : system.failover.settings.recoveryWindowMs.toNat = window)
    (recovered : id ∈ system.recoveredAt operation) :
    (∀ queue, (system.step operation).registry.queues.get? id = some queue →
      queue.status = .active) ∧
    ∀ since, system.failover.Sidelined id since → since ≤ system.clock.now →
      since + window < system.clock.now := by
  rcases step_cases orderly respects with ⟨-, none⟩ | ⟨looked, prolongs, same, result, returned⟩
  · rw [none] at recovered
    cases recovered
  · rw [returned] at recovered
    constructor
    · intro queue found
      change (system.step operation).failover.registry.queues.get? id = some queue at found
      rw [result] at found
      exact Failover.active_of_mem_recover recovered found
    · intro since sidelined passed
      have late := (sidelined.prolong passed prolongs).late recovered
      rw [same, inForce] at late
      exact late

/-- A failure or a remap by hand sidelines its queue. -/
theorem sidelined_of_sidelines (orderly : operation.Orderly window system)
    (sidelines : system.Sidelines id operation) :
    (system.step operation).failover.Sidelined id system.clock.now := by
  rcases sidelines with ⟨handling, member, rfl, present⟩ | ⟨target?, rfl, checked⟩
  · cases operation with
    | failover op =>
        cases op with
        | handleFailure other =>
            obtain rfl := List.mem_singleton.1 member
            obtain ⟨queue, found⟩ := present
            exact Failover.sidelined_handleFailure found system.clock.now
        | checkHealth settings time =>
            obtain rfl : time = system.clock.now := orderly
            exact Failover.sidelined_checkHealth member present
        | _ => cases member
    | _ => cases member
  · exact Failover.sidelined_remapByHand checked system.clock.now

/-! ## Runs -/

theorem window_run (orderly : system.Throughout (Orderly window) operations)
    (inForce : system.failover.settings.recoveryWindowMs.toNat = window) :
    (system.run operations).failover.settings.recoveryWindowMs.toNat = window := by
  induction operations generalizing system with
  | nil => exact inForce
  | cons operation rest ih => exact ih orderly.2 (window_step orderly.1 inForce)

/-- A queue that is sidelined at the start of a run still is at its end, unless the window has
passed. -/
theorem sidelined_run (forward : system.Throughout Forward operations)
    (orderly : system.Throughout (Orderly window) operations)
    (respects : system.Throughout (Respects id) operations)
    (inForce : system.failover.settings.recoveryWindowMs.toNat = window)
    (sidelined : system.failover.Sidelined id since) (passed : since ≤ system.clock.now) :
    (system.run operations).failover.Sidelined id since ∨
      since + window < (system.run operations).clock.now := by
  induction operations generalizing system with
  | nil => exact .inl sidelined
  | cons operation rest ih =>
      rcases sidelined_step orderly.1 respects.1 inForce sidelined passed with kept | late
      · have advanced := Nat.le_trans passed forward.1
        exact ih forward.2 orderly.2 respects.2 (window_step orderly.1 inForce) kept advanced
      -- After the window nothing more is said of the queue, and the clock does not go back.
      · exact .inr (Nat.lt_of_lt_of_le late (now_le_run forward))

/-- A queue is out of service for the window after each failure and each remap by hand, and only a
later recovery puts it back into service. -/
structure Quarantines (start : System) (window : Nat) (id : QueueId)
    (operations : List Operation) : Prop where
  /-- Within the window after a failure or a remap by hand the queue is failed or recovering. -/
  held : ∀ {earlier operation between later},
    operations = earlier ++ operation :: (between ++ later) →
    (start.run earlier).Sidelines id operation →
    (start.run (earlier ++ operation :: between)).clock.now ≤
      (start.run earlier).clock.now + window →
    (start.run (earlier ++ operation :: between)).registry.Ailing id
  /-- Only a recovery puts the queue back into service. -/
  released : ∀ {earlier operation later}, operations = earlier ++ operation :: later →
    (start.run earlier).registry.Ailing id →
    ¬(start.run (earlier ++ [operation])).registry.Ailing id →
    id ∈ (start.run earlier).recoveredAt operation ∧
      ∀ queue, (start.run (earlier ++ [operation])).registry.queues.get? id = some queue →
        queue.status = .active
  /-- A recovery of the queue comes after the window of each failure and each remap by hand. -/
  late : ∀ {earlier sidelining between recovery later},
    operations = earlier ++ sidelining :: (between ++ recovery :: later) →
    (start.run earlier).Sidelines id sidelining →
    id ∈ (start.run (earlier ++ sidelining :: between)).recoveredAt recovery →
    (start.run earlier).clock.now + window <
      (start.run (earlier ++ sidelining :: between)).clock.now
  /-- No health pass reports the queue as failed and as recovered. -/
  reported : ∀ {earlier settings time later},
    operations = earlier ++ .failover (.checkHealth settings time) :: later →
    let report := ((start.run earlier).failover.checkHealth settings
      (start.run earlier).clock.now time).1
    id ∈ report.failures.map (·.failed) → id ∉ report.recovered

/-- A queue that an operation sidelines stays sidelined in the rest of the run, unless the window
has passed. -/
theorem sidelined_since {between : List Operation} (forwardHere : system.Forward operation)
    (forward : (system.step operation).Throughout Forward between)
    (orderlyHere : operation.Orderly window system)
    (orderly : (system.step operation).Throughout (Orderly window) between)
    (respects : (system.step operation).Throughout (Respects id) between)
    (inForce : system.failover.settings.recoveryWindowMs.toNat = window)
    (sidelines : system.Sidelines id operation) :
    ((system.step operation).run between).failover.Sidelined id system.clock.now ∨
      system.clock.now + window < ((system.step operation).run between).clock.now :=
  sidelined_run forward orderly respects (window_step orderlyHere inForce)
    (sidelined_of_sidelines orderlyHere sidelines) forwardHere

/-- A run in which the clock never goes back keeps every queue in quarantine that is not taken out
of it by a direct change of its status. -/
theorem quarantines_run (blueprint : Blueprint) (operations : List Operation) (id : QueueId)
    (forward : (fresh blueprint).Throughout Forward operations)
    (orderly : (fresh blueprint).Throughout
      (Orderly blueprint.failover.recoveryWindowMs.toNat) operations)
    (respects : (fresh blueprint).Throughout (Respects id) operations) :
    (fresh blueprint).Quarantines blueprint.failover.recoveryWindowMs.toNat id operations := by
  constructor
  case held =>
    rintro earlier operation between later rfl sidelines within
    obtain ⟨-, onward, moving⟩ := throughout_append.1 forward
    obtain ⟨before, here, after⟩ := throughout_append.1 orderly
    have spared := (throughout_append.1 respects).2.2
    have kept := sidelined_since onward (throughout_append.1 moving).1 here
      (throughout_append.1 after).1 (throughout_append.1 spared).1 (window_run before rfl) sidelines
    rw [run_append, run_cons] at within ⊢
    exact (kept.resolve_right (Nat.not_lt.2 within)).ailing
  case released =>
    rintro earlier operation later rfl ailing released
    obtain ⟨before, here, -⟩ := throughout_append.1 orderly
    have spared := (throughout_append.1 respects).2.1
    rw [run_concat] at released ⊢
    have recovered := mem_recoveredAt_of_released here spared ailing released
    exact ⟨recovered, (of_mem_recoveredAt here spared (window_run before rfl) recovered).1⟩
  case late =>
    rintro earlier sidelining between recovery later rfl sidelines recovered
    obtain ⟨-, onward, moving⟩ := throughout_append.1 forward
    have movingBetween := (throughout_append.1 moving).1
    obtain ⟨before, here, after⟩ := throughout_append.1 orderly
    have spared := (throughout_append.1 respects).2.2
    obtain ⟨orderlyBetween, orderlyRecovery, -⟩ := throughout_append.1 after
    obtain ⟨sparedBetween, sparedRecovery, -⟩ := throughout_append.1 spared
    have inForce := window_run before rfl
    rw [run_append, run_cons] at recovered ⊢
    rcases sidelined_since onward movingBetween here orderlyBetween sparedBetween inForce
      sidelines with kept | late
    · have inForceThen := window_run orderlyBetween (window_step here inForce)
      exact (of_mem_recoveredAt orderlyRecovery sparedRecovery inForceThen recovered).2 _ kept
        (Nat.le_trans onward (now_le_run movingBetween))
    · exact late
  case reported =>
    rintro earlier settings time later rfl report failed
    obtain rfl : time = _ := (throughout_append.1 orderly).2.1
    obtain ⟨outcome, member, rfl⟩ := List.mem_map.1 failed
    exact Failover.not_recovered_of_failed member

/-- A queue fails without anywhere to move its flows. A recovery at the last moment of the window
leaves it out of service, the next health pass puts it back. -/
theorem quarantines_run_of_lone_queue :
    let blueprint : Blueprint := {
      capacity := 2, maxFlows := 8, buffersPerNode := 4, ringCapacity := 3 }
    let operations : List Operation := [.registry (.register 1 0), .advance 3,
      .failover (.handleFailure 1), .advance 5000, .failover (.recover 5003), .advance 1,
      .failover (.checkHealth {} 5004)]
    (fresh blueprint).Quarantines blueprint.failover.recoveryWindowMs.toNat 1 operations ∧
      ((fresh blueprint).run (operations.take 6)).registry.Ailing 1 ∧
      ¬((fresh blueprint).run operations).registry.Ailing 1 := by
  intro blueprint operations
  have forward : (fresh blueprint).Throughout Forward operations := by decide
  have recovered : 5003 = ((fresh blueprint).run (operations.take 4)).clock.now := by decide
  have checked : 5004 = ((fresh blueprint).run (operations.take 6)).clock.now := by decide
  have orderly : (fresh blueprint).Throughout
      (Orderly blueprint.failover.recoveryWindowMs.toNat) operations :=
    ⟨trivial, trivial, trivial, trivial, recovered, trivial, checked, trivial⟩
  have respects : (fresh blueprint).Throughout (Respects 1) operations :=
    ⟨trivial, trivial, trivial, trivial, trivial, trivial, trivial, trivial⟩
  exact ⟨quarantines_run blueprint operations 1 forward orderly respects, by decide, by decide⟩

/-- A direct change of status from recovering to active ends a quarantine at once. -/
theorem released_by_updateStatus :
    let blueprint : Blueprint := {
      capacity := 2, maxFlows := 8, buffersPerNode := 4, ringCapacity := 3 }
    let window := blueprint.failover.recoveryWindowMs.toNat
    let operations : List Operation := [.registry (.register 0 0), .registry (.register 1 0),
      .failover (.handleFailure 1), .registry (.updateStatus 1 fun view =>
        if view.status = .recovering then some .active else none)]
    (fresh blueprint).Throughout (Orderly window) operations ∧
      ((fresh blueprint).run (operations.take 2)).Sidelines 1 (.failover (.handleFailure 1)) ∧
      ((fresh blueprint).run operations).clock.now = 0 ∧
      ((((fresh blueprint).run operations).registry.queues.get? 1).map (·.status)) = some .active ∧
      ¬(fresh blueprint).Quarantines window 1 operations := by
  intro blueprint window operations
  have sidelines : ((fresh blueprint).run (operations.take 2)).Sidelines 1
      (.failover (.handleFailure 1)) := .inl ⟨_, List.mem_singleton_self _, rfl, _, rfl⟩
  have split : operations = operations.take 2 ++
      .failover (.handleFailure 1) :: (operations.drop 3 ++ []) := rfl
  refine ⟨⟨trivial, trivial, trivial, trivial, trivial⟩, sidelines, by decide, by decide, ?_⟩
  intro quarantines
  have held := quarantines.held split sidelines
  exact absurd (held (by decide)) (by decide)

end System

end FlowSteer
