import FlowSteer.Proofs.Failover.Degraded
import FlowSteer.Proofs.Quarantine

/-!
# Health passes restore no queue

A health pass would restore a degraded queue that has no more errors than the lower threshold. As
long as statuses are left to failover and all passes go by the same settings, there is no such queue
(`System.neverRestores_run`): what takes errors from a queue gives it another status in the same
step. A degraded queue leaves that status through a failure or a remap by hand, and only so.

1. `wears_step`, `degradedAbove_step`: each operation keeps the errors of degraded queues above the
   threshold, and one in which failover does not judge takes no errors away at all.
2. `degraded_step`: a degraded queue still is after an operation, unless it is sidelined.
3. `ailing_of_sidelines`: then it is failed or recovering, or the same pass has put it back into
   service after an outage.
-/

namespace FlowSteer

/-- The operation leaves statuses to failover, and a health pass goes by given settings. -/
def Operation.Monitors (settings : HealthSettings) : Operation → Prop
  | failover (.checkHealth other _) => other = settings
  | operation => operation.setsStatus = false

theorem Operation.Monitors.indirect {settings : HealthSettings} {operation : Operation}
    (monitors : operation.Monitors settings) : operation.setsStatus = false := by
  cases operation with
  | registry op => exact monitors
  | _ => rfl

/-- Does failover judge in the operation whether queues can serve. -/
def Operation.judges : Operation → Bool
  | failover (.handleFailure _) | failover (.remapByHand ..) | failover (.recover _)
  | failover (.checkHealth ..) => true
  | _ => false

namespace System

open Operation (Monitors)
open Registry (Wears)

variable {system : System} {operation : Operation} {operations : List Operation} {id : QueueId}
  {settings : HealthSettings}

/-! ## Steps -/

/-- An operation in which failover does not judge queues takes no errors from them. -/
theorem wears_step (monitors : operation.Monitors settings) (unjudged : operation.judges = false) :
    Wears system.registry (system.step operation).registry := by
  cases operation with
  | registry op => exact .apply system.registry _ op monitors
  | link op => exact (op.leads system.link).wears
  | failover op =>
      cases op with
      | setSettings other => exact .refl system.registry
      | placeFlow flow target => exact Failover.wears_placeFlow system.failover flow target
      | _ => cases unjudged
  | applyRate request =>
      exact Failover.wears_placed (system.limits.apply_cases system.failover request)
  | applyLine line =>
      exact Failover.wears_placed (system.limits.applyLine_cases system.failover line)
  | _ => exact .refl system.registry

/-- Each operation keeps the errors of degraded queues above the threshold. -/
theorem degradedAbove_step (onRecord : system.failover.OnRecord)
    (above : system.registry.DegradedAbove settings.degradedThreshold.toNat)
    (monitors : operation.Monitors settings) :
    (system.step operation).registry.DegradedAbove settings.degradedThreshold.toNat := by
  cases operation with
  | failover op =>
      cases op with
      | handleFailure other => exact Failover.degradedAbove_handleFailure above other _
      | remapByHand source target? => exact Failover.degradedAbove_remapByHand above source _ _
      | recover time => exact Failover.degradedAbove_recover above time
      | checkHealth other time =>
          obtain rfl : other = settings := monitors
          exact (Failover.spares_checkHealth onRecord above system.clock.now time).above
      | _ => exact (wears_step monitors rfl).degradedAbove above
  | _ => exact (wears_step monitors rfl).degradedAbove above

/-- A degraded queue still is after an operation, unless the operation sidelines it. -/
theorem degraded_step (onRecord : system.failover.OnRecord)
    (above : system.registry.DegradedAbove settings.degradedThreshold.toNat)
    (monitors : operation.Monitors settings) (degraded : system.registry.HasStatus id .degraded) :
    (system.step operation).registry.HasStatus id .degraded ∨ system.Sidelines id operation := by
  cases operation with
  | failover op =>
      cases op with
      | handleFailure other =>
          by_cases same : id = other
          · subst same
            obtain ⟨queue, found, -⟩ := degraded
            exact .inr (.inl ⟨_, List.mem_singleton_self _, rfl, queue, found⟩)
          · have others := Failover.KeepsOthers.handleFailure system.failover other
              system.clock.now
            exact .inl (degraded.of_strain (others id same))
      | remapByHand source target? =>
          cases checked : system.failover.checkRemap source target? with
          | error error =>
              have refused : (system.failover.remapByHand source target? system.clock.now).2 =
                  system.failover := by
                unfold Failover.remapByHand
                rw [checked]
              have same : (system.step (.failover (.remapByHand source target?))).registry =
                  system.registry := congrArg Failover.registry refused
              rw [same]
              exact .inl degraded
          | ok _ =>
              by_cases same : id = source
              · subst same
                exact .inr (.inr ⟨target?, rfl, checked⟩)
              · have others := Failover.KeepsOthers.remapByHand system.failover source target?
                  system.clock.now
                exact .inl (degraded.of_strain (others id same))
      | recover time => exact .inl (onRecord.degraded_recover degraded time)
      | checkHealth other time =>
          obtain rfl : other = settings := monitors
          have spares := Failover.spares_checkHealth onRecord above system.clock.now time
          exact (spares.degraded id degraded).imp_right .inl
      | _ => exact .inl ((wears_step monitors rfl).hasStatus degraded)
  | _ => exact .inl ((wears_step monitors rfl).hasStatus degraded)

/-- A queue that an operation sidelines is failed or recovering after it, or the operation was a
pass whose recovery came late enough to put the queue back into service. -/
theorem ailing_of_sidelines (sidelines : system.Sidelines id operation) :
    (system.step operation).registry.Ailing id ∨ id ∈ system.recoveredAt operation := by
  rcases sidelines with ⟨handling, member, rfl, present⟩ | ⟨target?, rfl, checked⟩
  · cases operation with
    | failover op =>
        cases op with
        | handleFailure other =>
            obtain rfl := List.mem_singleton.1 member
            obtain ⟨queue, found⟩ := present
            exact .inl (Failover.sidelined_handleFailure found system.clock.now).ailing
        | checkHealth settings time =>
            change handling ∈ (FailoverOp.checkHealth settings time).handlings system.clock.now
              system.failover at member
            show (system.failover.checkHealth settings system.clock.now time).2.registry.Ailing
                handling.queue ∨ handling.queue ∈
              (system.failover.checkHealth settings system.clock.now time).1.recovered
            unfold FailoverOp.handlings at member
            cases enabled : system.failover.settings.enabled with
            | false =>
                rw [enabled] at member
                cases member
            | true =>
                rw [enabled] at member
                rw [Failover.checkHealth_of_enabled enabled]
                have sidelined := Failover.sidelined_of_mem_handlingsOf member present
                by_cases recovered : handling.queue ∈
                    ((system.failover.registry.views.foldl
                      (Failover.checkQueue settings system.clock.now)
                      ({}, system.failover)).2.recover time).1
                · exact .inr recovered
                · exact .inl (Failover.ailing_recover sidelined.ailing recovered)
        | _ => cases member
    | _ => cases member
  · exact .inl (Failover.sidelined_remapByHand checked system.clock.now).ailing

/-! ## Runs -/

theorem degradedAbove_run (blueprint : Blueprint)
    (monitors : ∀ operation ∈ operations, operation.Monitors settings) :
    ((fresh blueprint).run operations).registry.DegradedAbove settings.degradedThreshold.toNat := by
  have kept : ∀ (system : System) operation, operation.Monitors settings →
      system.failover.OnRecord ∧
        system.registry.DegradedAbove settings.degradedThreshold.toNat →
      (system.step operation).failover.OnRecord ∧
        (system.step operation).registry.DegradedAbove settings.degradedThreshold.toNat := by
    rintro system operation monitors ⟨onRecord, above⟩
    exact ⟨onRecord_step onRecord operation monitors.indirect,
      degradedAbove_step onRecord above monitors⟩
  have onRecord : ((fresh blueprint).run []).failover.OnRecord := onRecord_run blueprint nofun
  have start : (fresh blueprint).failover.OnRecord ∧
      (fresh blueprint).registry.DegradedAbove settings.degradedThreshold.toNat :=
    ⟨onRecord, nofun⟩
  exact (run_induct kept monitors start).2

/-- No health pass of a run restores a queue. -/
structure NeverRestores (start : System) (settings : HealthSettings)
    (operations : List Operation) : Prop where
  /-- Every degraded queue has more errors in one direction than the lower threshold. -/
  errors : ∀ id queue, (start.run operations).registry.queues.get? id = some queue →
    queue.status = .degraded →
    settings.degradedThreshold.toNat < queue.counters.rxErrors ∨
      settings.degradedThreshold.toNat < queue.counters.txErrors
  /-- No health pass lists a queue as restored. -/
  restored : ∀ {earlier time later},
    operations = earlier ++ .failover (.checkHealth settings time) :: later →
    ((start.run earlier).failover.checkHealth settings (start.run earlier).clock.now
      time).1.restored = []
  /-- A queue is no longer degraded only when its failure was handled or it was remapped by hand.
  Then it is failed or recovering, or it was put back into service after an outage. -/
  left : ∀ {earlier operation later id}, operations = earlier ++ operation :: later →
    (start.run earlier).registry.HasStatus id .degraded →
    ¬(start.run (earlier ++ [operation])).registry.HasStatus id .degraded →
    (start.run earlier).Sidelines id operation ∧
      ((start.run (earlier ++ [operation])).registry.Ailing id ∨
        id ∈ (start.run earlier).recoveredAt operation)

/-- When statuses are left to failover and all health passes go by the same settings, none of them
restores a queue. -/
theorem neverRestores_run (blueprint : Blueprint) (settings : HealthSettings)
    (operations : List Operation)
    (monitors : ∀ operation ∈ operations, operation.Monitors settings) :
    (fresh blueprint).NeverRestores settings operations := by
  constructor
  case errors =>
    intro id queue found degraded
    have shown : ((fresh blueprint).run operations).registry.strain id =
        some (.degraded, queue.counters.worstErrors) := by
      rw [Registry.strain_of_get? found, Queue.strain, degraded]
    have above := degradedAbove_run blueprint monitors id _ shown
    unfold Counters.worstErrors at above
    omega
  case restored =>
    rintro earlier time later rfl
    have before : ∀ operation ∈ earlier, operation.Monitors settings :=
      fun operation member => monitors operation (List.mem_append_left _ member)
    have onRecord := onRecord_run blueprint fun operation member =>
      (before operation member).indirect
    have above := degradedAbove_run blueprint before
    exact (Failover.spares_checkHealth onRecord above _ time).restored
  case left =>
    rintro earlier operation later id rfl degraded undegraded
    have before : ∀ operation ∈ earlier, operation.Monitors settings :=
      fun operation member => monitors operation (List.mem_append_left _ member)
    have here := monitors operation (List.mem_append_right earlier List.mem_cons_self)
    have onRecord := onRecord_run blueprint fun operation member =>
      (before operation member).indirect
    rw [run_concat] at undegraded ⊢
    have above := degradedAbove_run blueprint before
    have sidelines := (degraded_step onRecord above here degraded).resolve_left undegraded
    exact ⟨sidelines, ailing_of_sidelines sidelines⟩

/-- A queue is degraded by its errors, stays so in another pass without new ones, and leaves that
status when it breaches the failure threshold. -/
theorem neverRestores_run_of_rising_errors :
    let blueprint : Blueprint := {
      capacity := 2, maxFlows := 8, buffersPerNode := 4, ringCapacity := 3 }
    let settings : HealthSettings := { degradedThreshold := 1, failureThreshold := 2 }
    let pass : Operation := .failover (.checkHealth settings 0)
    let operations : List Operation := [.registry (.register 0 0), .registry (.register 1 0),
      .registry (.countError 1 .tx), .registry (.countError 1 .tx), pass, pass,
      .registry (.countError 1 .tx), pass]
    (fresh blueprint).NeverRestores settings operations ∧
      ((fresh blueprint).run (operations.take 7)).registry.HasStatus 1 .degraded ∧
      ((fresh blueprint).run operations).registry.HasStatus 1 .recovering := by
  intro blueprint settings pass operations
  have monitors : ∀ operation ∈ operations, operation.Monitors settings := by
    simp [operations, pass, Operation.Monitors, Operation.setsStatus, RegistryOp.setsStatus]
  exact ⟨neverRestores_run blueprint settings operations monitors, by decide, by decide⟩

end System

end FlowSteer
