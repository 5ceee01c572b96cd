import FlowSteer.Proofs.FlowOwnership
import FlowSteer.Proofs.Registry.Packets

/-!
# All or nothing

An operation that is refused leaves the state as it was (`Atomic`), at whichever of its checks it
is refused; a packet that is counted changes what it has to change, and nothing else. A state in
which both hold of every operation on flows and work is `Transactional`.

`System.transactional_run`: every state of a run is.
-/

namespace FlowSteer

/-- An operation that was refused has left the state as it was. -/
def Atomic {State α : Type} (before : State) (outcome : Except ControlError α × State) : Prop :=
  ∀ error, outcome.1 = .error error → outcome.2 = before

namespace Atomic

variable {State α : Type} {before after : State}

theorem of_error (error : ControlError) :
    Atomic before ((.error error, before) : Except ControlError α × State) :=
  fun _ _ => rfl

theorem of_ok (value : α) : Atomic before ((.ok value, after) : Except ControlError α × State) :=
  nofun

end Atomic

namespace Registry

variable (registry : Registry)

theorem atomic_register (id : QueueId) (node : NodeId) :
    Atomic registry (registry.register id node) := by
  rcases registry.register_cases id node with ⟨error, result⟩ | ⟨_, result⟩ <;> rw [result]
  · exact .of_error error
  · exact .of_ok ()

theorem atomic_record (id : QueueId) (flow : FlowId) (size : Nat) (direction : Direction)
    (now : Nat) : Atomic registry (registry.record id flow size direction now) := by
  rcases registry.record_cases id flow size direction now with
    ⟨error, result⟩ | ⟨_, _, _, result⟩ | ⟨_, _, _, _, _, _, result⟩ <;> rw [result]
  · exact .of_error error
  · exact .of_ok ()
  · exact .of_ok ()

theorem atomic_recordLatency (flow : FlowId) (latency : Nat) :
    Atomic registry (registry.recordLatency flow latency) := by
  rcases registry.recordLatency_cases flow latency with
    ⟨error, result⟩ | ⟨_, _, _, _, _, result⟩ <;> rw [result]
  · exact .of_error error
  · exact .of_ok ()

theorem atomic_finishWork (id : QueueId) (work : Nat) :
    Atomic registry (registry.finishWork id work) := by
  unfold finishWork
  cases registry.queue id with
  | error error => exact .of_error error
  | ok queue =>
      simp only []
      split
      · exact .of_error _
      · exact .of_ok _

theorem atomic_moveFlow (flow : FlowId) (source target : QueueId) :
    Atomic registry (registry.moveFlow flow source target) := by
  rcases registry.moveFlow_cases flow source target with
    ⟨error, result⟩ | ⟨_, _, _, _, _, _, result⟩ <;> rw [result]
  · exact .of_error error
  · exact .of_ok ()

theorem atomic_moveAll (source target : QueueId) :
    Atomic registry (registry.moveAll source target) := by
  rcases registry.moveAll_cases source target with ⟨error, result⟩ | ⟨_, _, _, result⟩ <;>
    rw [result]
  · exact .of_error error
  · exact .of_ok _

end Registry

theorem Failover.atomic_placeFlow (failover : Failover) (flow : FlowId) (target : QueueId) :
    Atomic failover (failover.placeFlow flow target) := by
  rcases failover.placeFlow_cases flow target with
    ⟨error, result⟩ | result | ⟨_, _, result⟩ <;> rw [result]
  · exact .of_error error
  · exact .of_ok none
  · exact .of_ok _

/-- The operations on flows and work do all that they are to do, or nothing. -/
structure Failover.Transactional (failover : Failover) : Prop where
  register : ∀ id node, Atomic failover.registry (failover.registry.register id node)
  record : ∀ id flow size direction now,
    Atomic failover.registry (failover.registry.record id flow size direction now)
  recordLatency : ∀ flow latency,
    Atomic failover.registry (failover.registry.recordLatency flow latency)
  finishWork : ∀ id work, Atomic failover.registry (failover.registry.finishWork id work)
  moveFlow : ∀ flow source target,
    Atomic failover.registry (failover.registry.moveFlow flow source target)
  moveAll : ∀ source target, Atomic failover.registry (failover.registry.moveAll source target)
  placeFlow : ∀ flow target, Atomic failover (failover.placeFlow flow target)
  /-- A packet that is taken is counted, and nothing else happens. -/
  counted : ∀ {id flow size direction now},
    (failover.registry.record id flow size direction now).1 = .ok () →
    Registry.CountsPacket failover.registry
      (failover.registry.record id flow size direction now).2 id flow size direction now

/-- Where tables and directory agree, operations do all that they are to do, or nothing. -/
theorem Failover.transactional {failover : Failover} (own : failover.registry.Ownership) :
    failover.Transactional where
  register := failover.registry.atomic_register
  record := failover.registry.atomic_record
  recordLatency := failover.registry.atomic_recordLatency
  finishWork := failover.registry.atomic_finishWork
  moveFlow := failover.registry.atomic_moveFlow
  moveAll := failover.registry.atomic_moveAll
  placeFlow := failover.atomic_placeFlow
  counted := own.countsPacket

/-- After every run, operations do all that they are to do, or nothing. -/
theorem System.transactional_run (blueprint : Blueprint) (operations : List Operation) :
    ((fresh blueprint).run operations).failover.Transactional :=
  Failover.transactional (ownership_run blueprint operations)

end FlowSteer
