import FlowSteer.Proofs.BringUp
import FlowSteer.Proofs.Conservation
import FlowSteer.Proofs.Plane.Effects

/-!
# The ledger of a control plane

A plane is brought up with all its buffers free and no work pending. When its device is idle at that
moment, the ledger of the packet path is closed from then on (`Plane.ledger_run`): ticks, new
settings, workers and a shutdown change neither buffers nor work but by draining. It takes an
operation that goes past the packet path to open it (`PlaneOp.bypassesLink`).
-/

namespace FlowSteer

/-- The device holds no descriptor, and nothing is mapped for it. -/
structure Device.Idle (device : Device) : Prop where
  rings : device.rings = .empty
  mapped : device.mapped = 0

/-- Does the operation change pending work, or take or return buffers, past the packet path. -/
def PlaneOp.bypassesLink : PlaneOp → Bool
  | part op => op.changesWork
  | takeBuffer _ | returnBuffer _ => true
  | _ => false

namespace Plane

variable {settings : Settings} {device : Device} {clock : Clock} {plane : Plane}
  {registry : Registry} {nodes size : Nat}

/-! ## Hints -/

theorem keepsBuffers_pushAffinity (device : Device) (bindings : List Binding) :
    Device.KeepsBuffers device (pushAffinity device bindings) := by
  unfold pushAffinity
  induction bindings generalizing device with
  | nil => exact .refl device
  | cons binding rest ih =>
      have first : Device.KeepsBuffers device (device.setAffinity binding.queue binding.target) :=
        .of_rings rfl rfl
      exact first.trans (ih _)

theorem keepsBuffers_pushInterval (device : Device) (ids : List QueueId) (usecs : Nat) :
    Device.KeepsBuffers device (pushInterval device ids usecs) := by
  rw [pushInterval_eq]
  exact .of_rings rfl rfl

/-! ## Bring-up -/

/-- The queues of a new registry have no work, and an idle device has no descriptor of theirs. -/
theorem matches_newRegistry (made : newRegistry settings = .ok registry) (idle : device.Idle) :
    registry.Matches device 0 := by
  have empty : ∀ id, device.ring id = {} := by
    intro id
    rw [Device.ring, idle.rings]
    rfl
  have registered : ∀ (registry : Registry) id node, registry.Matches device 0 →
      (registry.register id node).2.Matches device 0 :=
    fun _ id node agree => agree.register id node
  apply newRegistry_induct registered made
  constructor
  · intro id queue found
    cases found
  · intro id queue found
    cases found
  · intro id _
    rw [empty]
    rfl

/-- A plane is brought up with a closed ledger. -/
theorem Started.ledger (started : Started settings device clock registry plane)
    (idle : device.Idle) :
    plane.link.Ledger (max (if settings.numaAware then settings.numaNodes.toNat else 1) 1)
      settings.pool.buffersPerNode.toNat 0 0 := by
  have none : device.buffers = 0 := by
    rw [Device.buffers, idle.rings]
    rfl
  have unprogrammed : Link.Ledger (max (if settings.numaAware then settings.numaNodes.toNat else 1) 1)
      settings.pool.buffersPerNode.toNat 0 0
      { registry, datapath := newDatapath settings device registry.queueIds } := by
    refine ⟨⟨?_, ?_⟩, matches_newRegistry started.made idle, rfl⟩
    · show Pools.Lend _ _ _ (0 + device.buffers)
      rw [none]
      exact .full _ _ _
    · show device.mapped = Multiset.card (0 + device.buffers)
      rw [none, idle.mapped]
      rfl
  rw [started.assembled]
  refine unprogrammed.of_spares ⟨Registry.keeps_bind Queue.work_blindToCpu _, rfl, ?_, rfl⟩
  have attached : device.KeepsBuffers
      (device.attachedTo settings.completionChannelCapacity.toNat registry.queueIds) :=
    .of_rings rfl rfl
  exact (attached.trans (keepsBuffers_pushAffinity _ _)).trans (keepsBuffers_pushInterval _ _ _)

/-! ## Operations -/

theorem spares_runDuty (time : Nat) (state : TickReport × Plane) (duty : Duty) :
    state.2.link.Spares (runDuty time state duty).2.link := by
  cases duty with
  | healthCheck =>
      have leads : Registry.Leads RegistryOp.byFailover state.2.clock.now state.2.registry _ :=
        state.2.failover.leads_checkHealth state.2.health state.2.clock.now time
      apply Link.Spares.registry
      apply leads.keeps
      exact fun _ op allowed => Registry.keeps_byFailover Queue.work_blindToTraffic
        Queue.work_blindToHealth op allowed
  | adaptiveScheduling =>
      exact ⟨Registry.keeps_bind Queue.work_blindToCpu _, rfl, keepsBuffers_pushAffinity _ _, rfl⟩
  | coalesce =>
      show state.2.link.Spares state.2.adaptCoalescing.2.link
      unfold adaptCoalescing
      simp only []
      split
      · exact ⟨.refl _ _, rfl, keepsBuffers_pushInterval _ _ _, rfl⟩
      · exact .refl state.2.link
  | flowAging =>
      exact .registry (Registry.keeps_forgetIdle Queue.work_blindToTraffic.flows time _)

theorem spares_tick (plane : Plane) (time : Nat) : plane.link.Spares (plane.tick time).2.link := by
  unfold tick
  split
  · exact .refl plane.link
  · have fired := List.foldlRecOn
      (motive := fun state : TickReport × Plane => plane.link.Spares state.2.link)
      (plane.timers.due time).1 (runDuty time)
      (b := ({ fired := (plane.timers.due time).1 },
        { plane with timers := (plane.timers.due time).2 }))
      (.refl plane.link) fun state reached duty _ => reached.trans (spares_runDuty time state duty)
    exact fired

theorem spares_updateSettings (plane : Plane) (settings : Settings) :
    plane.link.Spares (plane.updateSettings settings).2.link := by
  rcases plane.link_updateSettings settings with same | ⟨usecs, pushed⟩
  · rw [same]
    exact .refl plane.link
  · rw [pushed]
    exact ⟨.refl _ _, rfl, keepsBuffers_pushInterval _ _ _, rfl⟩

theorem ledger_closeQueue {state : ShutdownReport × Link} (ledger : state.2.Ledger nodes size 0 0)
    (now : Nat) (id : QueueId) : (closeQueue now state id).2.Ledger nodes size 0 0 :=
  (ledger.drain id none now).of_spares ⟨.refl _ _, rfl, .of_rings rfl rfl, rfl⟩

theorem ledger_closeAll {ids : List QueueId} {state : ShutdownReport × Link}
    (ledger : state.2.Ledger nodes size 0 0) (now : Nat) :
    (ids.foldl (closeQueue now) state).2.Ledger nodes size 0 0 :=
  List.foldlRecOn (motive := fun state => state.2.Ledger nodes size 0 0) ids (closeQueue now) ledger
    fun _ reached id _ => ledger_closeQueue reached now id

theorem ledger_shutdown (ledger : plane.link.Ledger nodes size 0 0) :
    plane.shutdown.2.link.Ledger nodes size 0 0 := by
  unfold shutdown
  split
  · exact ledger
  · have closed : (plane.registry.queueIds.foldl (closeQueue plane.clock.now)
        ({}, plane.link)).2.Ledger nodes size 0 0 := ledger_closeAll ledger _
    exact closed.of_spares
      (.registry (Registry.keeps_forgetAll Queue.work_blindToTraffic.flows))

theorem ledger_step (ledger : plane.link.Ledger nodes size 0 0) (small : size < wordSize)
    (operation : PlaneOp) (through : operation.bypassesLink = false) :
    (plane.step operation).link.Ledger nodes size 0 0 := by
  cases operation with
  | part op =>
      have kept : (plane.system.step op).link.Ledger nodes size 0 0 :=
        System.ledger_step ledger small op through
      exact kept
  | takeBuffer node => cases through
  | returnBuffer buffer => cases through
  | tick time => exact ledger.of_spares (plane.spares_tick time)
  | updateSettings settings => exact ledger.of_spares (plane.spares_updateSettings settings)
  | setInterval usecs =>
      exact ledger.of_spares ⟨.refl _ _, rfl, keepsBuffers_pushInterval _ _ _, rfl⟩
  | runWorkers =>
      have worked := List.foldlRecOn (motive := Link.Ledger nodes size 0 0)
        plane.registry.queueIds
        (fun link id => link.work id plane.workerBudget plane.clock.now) ledger
        fun _ reached id _ => reached.work id _ _
      exact worked
  | shutdown => exact ledger_shutdown ledger
  | _ => exact ledger

/-- The ledger stays closed as long as no operation goes past the packet path. -/
theorem ledger_run (ledger : plane.link.Ledger nodes size 0 0) (small : size < wordSize)
    {operations : List PlaneOp} (through : ∀ op ∈ operations, op.bypassesLink = false) :
    (plane.run operations).link.Ledger nodes size 0 0 :=
  List.foldlRecOn (motive := fun plane => plane.link.Ledger nodes size 0 0) operations step ledger
    fun _ reached operation member => ledger_step reached small operation (through operation member)

end Plane

end FlowSteer
