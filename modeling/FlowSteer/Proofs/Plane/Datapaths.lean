import FlowSteer.Proofs.Link.Invariants
import FlowSteer.Proofs.Plane.Effects

/-!
# What a control plane does to its datapath

A plane changes its datapath by operations of the packet path and of the device, and callers may
take buffers from its pools past the packet path and return them. A condition that each of these
steps keeps is kept by every operation of the plane (`Datapath.InvariantUnder.planeStep`). Only
packets that are sent and receive buffers that are posted hand over descriptors
(`PlaneOp.Admits`).
-/

namespace FlowSteer

/-- Callers who take and return buffers past the packet path keep a condition. -/
structure Datapath.PoolInvariant (holds : Datapath → Prop) : Prop where
  alloc : ∀ {datapath : Datapath} node, holds datapath →
    holds { datapath with pools := (datapath.pools.alloc node).2 }
  release : ∀ {datapath : Datapath} buffer, holds datapath →
    holds { datapath with pools := datapath.pools.release buffer }

/-- Are the descriptors allowed that an operation of the plane hands over. -/
def PlaneOp.Admits (allowed : Descriptor → Prop) (plane : Plane) : PlaneOp → Prop
  | part (.link op) => op.Admits allowed plane.clock.now plane.link
  | _ => True

namespace Datapath.InvariantUnder

variable {allowed : Descriptor → Prop} {holds : Datapath → Prop} {datapath : Datapath}
  {plane : Plane}

/-! ## Hints -/

theorem pushAffinity (invariant : InvariantUnder allowed holds) (bindings : List Binding)
    (before : holds datapath) :
    holds { datapath with device := Plane.pushAffinity datapath.device bindings } :=
  List.foldlRecOn (motive := fun device => holds { datapath with device }) bindings _ before
    fun _ reached binding _ => invariant.device (.setAffinity binding.queue binding.target) reached

theorem pushInterval (invariant : InvariantUnder allowed holds) (ids : List QueueId)
    (usecs : Nat) (before : holds datapath) :
    holds { datapath with device := Plane.pushInterval datapath.device ids usecs } :=
  List.foldlRecOn (motive := fun device => holds { datapath with device }) ids _ before
    fun _ reached id _ => invariant.device (.setInterval id usecs) reached

/-! ## Operations of the plane -/

theorem runDuty (invariant : InvariantUnder allowed holds) (time : Nat)
    {state : TickReport × Plane} (duty : Duty) (before : holds state.2.datapath) :
    holds (Plane.runDuty time state duty).2.datapath := by
  cases duty with
  | healthCheck => exact before
  | adaptiveScheduling => exact invariant.pushAffinity _ before
  | coalesce =>
      show holds state.2.adaptCoalescing.2.datapath
      unfold Plane.adaptCoalescing
      simp only []
      split
      · exact invariant.pushInterval _ _ before
      · exact before
  | flowAging => exact before

theorem tick (invariant : InvariantUnder allowed holds) (time : Nat)
    (before : holds plane.datapath) : holds (plane.tick time).2.datapath := by
  unfold Plane.tick
  split
  · exact before
  · have fired := List.foldlRecOn
      (motive := fun state : TickReport × Plane => holds state.2.datapath)
      (plane.timers.due time).1 (Plane.runDuty time)
      (b := ({ fired := (plane.timers.due time).1 },
        { plane with timers := (plane.timers.due time).2 }))
      before fun _ reached duty _ => invariant.runDuty time duty reached
    exact fired

theorem updateSettings (invariant : InvariantUnder allowed holds) (settings : Settings)
    (before : holds plane.datapath) : holds (plane.updateSettings settings).2.datapath := by
  have same : (plane.updateSettings settings).2.datapath =
      (plane.updateSettings settings).2.link.datapath := rfl
  rw [same]
  rcases plane.link_updateSettings settings with unchanged | ⟨usecs, pushed⟩
  · rw [unchanged]
    exact before
  · rw [pushed]
    exact invariant.pushInterval _ _ before

theorem shutdown (invariant : InvariantUnder allowed holds) (before : holds plane.datapath) :
    holds plane.shutdown.2.datapath := by
  unfold Plane.shutdown
  split
  · exact before
  · have closed := List.foldlRecOn
      (motive := fun state : ShutdownReport × Link => holds state.2.datapath)
      plane.registry.queueIds (Plane.closeQueue plane.clock.now) (b := ({}, plane.link)) before
      fun _ reached id _ => invariant.deviceOp (.detach id) (invariant.drain id none _ reached)
    exact closed

/-- An operation of the plane keeps what each step keeps. -/
theorem planeStep (invariant : InvariantUnder allowed holds) (pools : PoolInvariant holds)
    {operation : PlaneOp} (admitted : operation.Admits allowed plane)
    (before : holds plane.datapath) : holds (plane.step operation).datapath := by
  cases operation with
  | part op =>
      cases op with
      | link op =>
          have kept : holds (op.apply plane.clock.now plane.link).datapath :=
            invariant.linkOp admitted before
          exact kept
      | device op => exact invariant.deviceOp op before
      | _ => exact before
  | takeBuffer node => exact pools.alloc node before
  | returnBuffer buffer => exact pools.release buffer before
  | tick time => exact invariant.tick time before
  | updateSettings settings => exact invariant.updateSettings settings before
  | setInterval usecs => exact invariant.pushInterval _ _ before
  | runWorkers =>
      have worked := List.foldlRecOn (motive := fun link : Link => holds link.datapath)
        plane.registry.queueIds
        (fun link id => link.work id plane.workerBudget plane.clock.now) (b := plane.link) before
        fun _ reached id _ => invariant.work id _ _ reached
      exact worked
  | shutdown => exact invariant.shutdown before
  | _ => exact before

end Datapath.InvariantUnder

end FlowSteer
