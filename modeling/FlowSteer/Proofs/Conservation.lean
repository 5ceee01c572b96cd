import FlowSteer.Proofs.Buffers.Ledger
import FlowSteer.Proofs.Registry.Effects

/-!
# Buffers and work are conserved

From a fresh start, as long as pending work is changed by the packet path alone, the ledger of the
packet path is closed after every operation (`System.ledger_step`). Hence no run loses or doubles a
buffer, leaves a mapping behind or miscounts pending work (`System.conserved_run`), whichever of its
operations were refused and at whatever point.
-/

namespace FlowSteer

namespace System

/-- Buffers, mappings and work add up, for the pools with which the system was made. -/
structure Conserved (blueprint : Blueprint) (system : System) : Prop where
  /-- Each node has its pool, and the free buffers of the pool together with the buffers of the
  node in rings are all its buffers, each once. -/
  partition : ∀ {node}, node < max blueprint.nodes 1 →
    ∃ pool, system.datapath.pools.pool? node = some pool ∧ pool.node = node ∧
      pool.size = blueprint.buffersPerNode ∧
      (pool.free : Multiset Nat) + indices node system.datapath.device.buffers =
        Pool.indicesOf blueprint.buffersPerNode
  /-- As long as indices are not cut, these are the indices below the size, each once. -/
  each : blueprint.buffersPerNode ≤ wordSize32 → ∀ {node pool},
    system.datapath.pools.pool? node = some pool →
    (pool.free : Multiset Nat) + indices node system.datapath.device.buffers =
      Multiset.range blueprint.buffersPerNode
  /-- The buffers in rings are those of the pools. -/
  known : ∀ buffer ∈ system.datapath.device.buffers, buffer.node < max blueprint.nodes 1
  /-- There is one mapping for each descriptor, in flight or completed. -/
  mapped : system.datapath.device.mapped =
    system.datapath.device.rings.total fun ring => ring.inFlight.length + ring.completed.length
  allocated : system.datapath.device.mapped = system.datapath.pools.allocated
  /-- Work is pending for each descriptor of the queue, in flight or completed. -/
  pending : ∀ {id queue}, system.registry.queues.get? id = some queue →
    queue.pending = (system.datapath.device.ring id).inFlight.length +
      (system.datapath.device.ring id).completed.length
  underflows : system.datapath.stats.underflows = 0

variable {system : System} {nodes size : Nat}

theorem ledger_step (ledger : system.link.Ledger nodes size 0 0) (small : size < wordSize)
    (operation : Operation) (indirect : operation.changesWork = false) :
    (system.step operation).link.Ledger nodes size 0 0 := by
  have moved : ∀ {after : Registry},
      Registry.Leads RegistryOp.byFailover system.clock.now system.registry after →
      Registry.Keeps Queue.work system.registry after := by
    intro after leads
    apply leads.keeps
    exact fun _ op allowed => Registry.keeps_byFailover Queue.work_blindToTraffic
      Queue.work_blindToHealth op allowed
  cases operation with
  | registry op =>
      exact ⟨ledger.covers, ledger.agree.registryOp system.clock.now op indirect,
        ledger.underflows⟩
  | failover op => exact ledger.of_spares (.registry (moved (op.leads system.failover)))
  | link op => exact ledger.linkOp small system.clock.now op
  | device op =>
      exact ledger.of_spares ⟨.refl _ _, rfl, op.keepsBuffers system.datapath.device, rfl⟩
  | applyRate request =>
      exact ledger.of_spares
        (.registry (moved (Failover.leads_placed
          (system.limits.apply_cases system.failover request))))
  | applyLine line =>
      exact ledger.of_spares
        (.registry (moved (Failover.leads_placed
          (system.limits.applyLine_cases system.failover line))))
  | clearRate flow => exact ledger
  | advance millis => exact ledger
  | advanceMicros micros => exact ledger
  | setClock time => exact ledger

theorem ledger_fresh (blueprint : Blueprint) :
    (fresh blueprint).link.Ledger (max blueprint.nodes 1) blueprint.buffersPerNode 0 0 where
  covers := ⟨.full _ _ _, rfl⟩
  agree := by
    constructor
    · intro id queue found
      cases found
    · intro id queue found
      cases found
    · exact fun _ => rfl
  underflows := rfl

/-- What a closed ledger says about the system. -/
theorem conserved_of_ledger {blueprint : Blueprint}
    (ledger : system.link.Ledger (max blueprint.nodes 1) blueprint.buffersPerNode 0 0) :
    system.Conserved blueprint := by
  obtain ⟨⟨lend, mapped⟩, agree, underflows⟩ := ledger
  rw [zero_add] at lend mapped
  constructor
  · intro node known
    rw [← lend.number] at known
    have found := List.getElem?_eq_getElem known
    obtain ⟨named, sized, lends⟩ := lend.each found
    have partition := lends.partition
    rw [sized] at partition
    exact ⟨_, found, named, sized, partition⟩
  · intro small node pool found
    obtain ⟨-, sized, lends⟩ := lend.each found
    rw [← Pool.indicesOf_of_small small, ← sized]
    exact lends.partition
  · exact lend.known
  · rw [← Device.card_buffers]
    exact mapped
  · exact mapped.trans lend.allocated_eq.symm
  · intro id queue found
    rw [← Ring.card_buffers]
    exact agree.pending found
  · exact underflows

end System

end FlowSteer
