import FlowSteer.Proofs.Link.Emptying
import FlowSteer.Proofs.Plane.Ledger
import FlowSteer.Proofs.Statistics

/-!
# Shutdown

A shutdown drains every queue for the last time, detaches the vectors and forgets all flows, and
reports what it found. The last drains account for completions like any other drain, so that they
can bring up flows on any queue; these are forgotten with the rest.

1. `alike_closeAll`: detaching vectors in between makes no difference to the last drains.
2. `completionsDrained_closeAll`, `vectorsReleased_closeAll`, `detached_closeAll`: what closing
   some queues reports, and what it leaves attached.
3. `Plane.accounts_run`: with the ledger closed, the report names everything that was still under
   way, and nothing of it is left behind.
-/

namespace FlowSteer

/-! ## Rings queue by queue -/

/-- What rings add up to, over any ids that include those of all rings that add something. -/
theorem Device.total_rings {device : Device} {part : Ring → Nat} (none : part {} = 0)
    {ids : List QueueId} (distinct : ids.Nodup)
    (elsewhere : ∀ id, id ∉ ids → part (device.ring id) = 0) :
    device.rings.total part = (ids.map fun id => part (device.ring id)).sum := by
  have own : device.rings.total part =
      (device.rings.ids.map fun id => part (device.ring id)).sum := by
    rw [IdMap.total_eq_sum, IdMap.values, IdMap.ids, List.map_map, List.map_map]
    congr 1
    apply List.map_congr_left
    intro entry member
    have found : device.rings.get? entry.1 = some entry.2 := IdMap.get?_eq_some_iff.2 member
    show part entry.2 = part (device.ring entry.1)
    rw [Device.ring, found]
    rfl
  have ringless : ∀ id, id ∉ device.rings.ids → part (device.ring id) = 0 := by
    intro id absent
    rw [Device.ring, IdMap.get?_eq_none_iff.2 absent]
    exact none
  rw [own, ← List.sum_toFinset _ device.rings.ids_nodup, ← List.sum_toFinset _ distinct]
  apply Finset.sum_congr_of_eq_on_inter
  · intro id _ outside
    exact elsewhere id fun member => outside (List.mem_toFinset.2 member)
  · intro id _ outside
    exact ringless id fun member => outside (List.mem_toFinset.2 member)
  · exact fun _ _ _ => rfl

namespace Registry.Matches

variable {registry : Registry} {device : Device} {owed : QueueId → Nat}

/-- A queue that is not registered has an empty ring. -/
theorem ring_of_unlisted (agree : registry.Matches device owed) {id : QueueId}
    (unlisted : id ∉ registry.queueIds) : device.ring id = {} := by
  have counted := (device.ring id).card_buffers
  rw [agree.idle (IdMap.get?_eq_none_iff.2 unlisted), Multiset.card_zero] at counted
  obtain ⟨noneInFlight, noneCompleted⟩ := Nat.add_eq_zero_iff.1 counted.symm
  cases held : device.ring id with
  | mk inFlight completed =>
      rw [held] at noneInFlight noneCompleted
      rw [Ring.mk.injEq]
      exact ⟨List.eq_nil_of_length_eq_zero noneInFlight,
        List.eq_nil_of_length_eq_zero noneCompleted⟩

/-- What rings add up to, queue by queue. -/
theorem total_rings (agree : registry.Matches device owed) {part : Ring → Nat}
    (none : part {} = 0) : device.rings.total part =
      (registry.queueIds.map fun id => part (device.ring id)).sum := by
  apply Device.total_rings none registry.queues.ids_nodup
  intro id unlisted
  rw [agree.ring_of_unlisted unlisted]
  exact none

end Registry.Matches

/-! ## Forgetting all flows -/

namespace Registry

variable {registry : Registry}

theorem entries_forgetAll {id : QueueId} {queue : Queue}
    (found : registry.forgetAll.2.queues.get? id = some queue) : queue.flows.entries = [] := by
  obtain ⟨_, _, rfl⟩ := Option.map_eq_some_iff.1 ((IdMap.get?_map ..).symm.trans found)
  rfl

/-- Where tables and directory agree, the directory is left without a flow. -/
theorem Ownership.directory_forgetAll (own : registry.Ownership) :
    registry.forgetAll.2.directory = .empty := by
  apply IdMap.ext
  intro flow
  refine (IdMap.get?_filter ..).trans ?_
  cases listed : registry.directory.get? flow with
  | none => rfl
  | some owner =>
      have held := own.listed.1 listed
      rw [Option.filter_some, holds_eq_any]
      obtain ⟨entry, found⟩ := Option.isSome_iff_exists.1 held
      rw [found]
      rfl

end Registry

namespace Plane

variable {settings : Settings} {device : Device} {clock : Clock} {plane : Plane} {now : Nat}
  {link : Link} {state : ShutdownReport × Link} {ids : List QueueId} {id : QueueId} {queue : Queue}

/-! ## Closing queues -/

/-- A last drain reports all completions of its queue. -/
theorem completionsDrained_closeQueue (found : state.2.registry.queues.get? id = some queue) :
    (closeQueue now state id).1.completionsDrained =
      state.1.completionsDrained + (state.2.datapath.device.ring id).completed.length := by
  obtain ⟨report, link⟩ := state
  obtain ⟨_, drained⟩ := Link.drain_eq found none now
  have counted := (Link.faithful_drain drained).completed
  have collected : link.collected id none = (link.datapath.device.ring id).completed :=
    List.take_length
  unfold closeQueue
  simp only []
  rw [drained, ← collected]
  exact congrArg (report.completionsDrained + ·) counted

theorem ring_closeQueue (found : state.2.registry.queues.get? id = some queue) {other : QueueId}
    (different : other ≠ id) : (closeQueue now state id).2.datapath.device.ring other =
      state.2.datapath.device.ring other := by
  have drained : (closeQueue now state id).2.datapath.device.ring other = _ :=
    Link.ring_drain found other
  rw [drained, if_neg different]

theorem queueIds_closeQueue (now : Nat) (state : ShutdownReport × Link) (id : QueueId) :
    (closeQueue now state id).2.registry.queueIds = state.2.registry.queueIds :=
  Link.queueIds_drain state.2 id now

/-- Closing queues reports all their completions. -/
theorem completionsDrained_closeAll (distinct : ids.Nodup)
    (registered : ∀ id ∈ ids, id ∈ state.2.registry.queueIds) :
    (ids.foldl (closeQueue now) state).1.completionsDrained =
      state.1.completionsDrained +
        (ids.map fun id => (state.2.datapath.device.ring id).completed.length).sum := by
  induction ids generalizing state with
  | nil => rfl
  | cons id rest ih =>
      obtain ⟨apart, restDistinct⟩ := List.nodup_cons.1 distinct
      obtain ⟨queue, found⟩ :=
        Option.isSome_iff_exists.1 (IdMap.contains_iff.2 (registered id List.mem_cons_self))
      have later : ∀ other ∈ rest, other ∈ (closeQueue now state id).2.registry.queueIds := by
        intro other member
        rw [queueIds_closeQueue]
        exact registered other (List.mem_cons_of_mem _ member)
      have untouched : (rest.map fun other =>
            ((closeQueue now state id).2.datapath.device.ring other).completed.length) =
          rest.map fun other => (state.2.datapath.device.ring other).completed.length := by
        apply List.map_congr_left
        intro other member
        rw [ring_closeQueue found fun same => apart (same ▸ member)]
      rw [List.foldl_cons, ih restDistinct later, untouched, completionsDrained_closeQueue found,
        List.map_cons, List.sum_cons, Nat.add_assoc]

theorem vectorsReleased_closeAll (now : Nat) (ids : List QueueId) (state : ShutdownReport × Link) :
    (ids.foldl (closeQueue now) state).1.vectorsReleased =
      state.1.vectorsReleased + ids.length := by
  induction ids generalizing state with
  | nil => rfl
  | cons id rest ih =>
      rw [List.foldl_cons, ih, List.length_cons, Nat.add_comm rest.length, ← Nat.add_assoc]
      rfl

/-- Closing queues does to registry and rings what draining them does. -/
theorem alike_closeAll (alike : state.2.Alike link) (now : Nat) (ids : List QueueId) :
    (ids.foldl (closeQueue now) state).2.Alike (link.drainAll ids now) := by
  induction ids generalizing state link with
  | nil => exact alike
  | cons id rest ih =>
      have drained := alike.drain id none now
      have detached : (closeQueue now state id).2.Alike (link.drain id none now).2 :=
        ⟨drained.registry, drained.rings⟩
      exact ih detached

/-- Queues that are closed, and those that had no vector before, have none. -/
theorem detached_closeAll
    (none : id ∈ ids ∨ state.2.datapath.device.vectors.get? id = none) :
    (ids.foldl (closeQueue now) state).2.datapath.device.vectors.get? id = .none := by
  induction ids generalizing state with
  | nil => exact none.resolve_left List.not_mem_nil
  | cons first rest ih =>
      have erased : (closeQueue now state first).2.datapath.device.vectors.get? id =
          if id = first then .none
          else (state.2.drain first .none now).2.datapath.device.vectors.get? id :=
        IdMap.get?_erase _ first id
      apply ih
      rw [erased]
      by_cases same : id = first
      · exact .inr (if_pos same)
      · rw [if_neg same]
        refine none.imp (fun member => ?_) Link.get?_vectors_drain
        exact (List.mem_cons.1 member).resolve_left same

end Plane

/-! ## The report -/

/-- Registry and datapath when the last completions of all queues are accounted for. -/
def Plane.drained (plane : Plane) : Link :=
  plane.link.drainAll plane.registry.queueIds plane.clock.now

/-- A report names everything that a plane still had under way, and nothing of it is left behind. -/
structure ShutdownReport.Accounts (report : ShutdownReport) (before after : Plane) : Prop where
  completions : report.completionsDrained =
    before.datapath.device.rings.total (·.completed.length)
  vectors : report.vectorsReleased = before.registry.size
  /-- Flows that the last drains bring up are dropped with the others. -/
  flows : report.flowsDropped = before.drained.registry.flowCount
  outstanding : report.buffersOutstanding =
    before.datapath.device.rings.total (·.inFlight.length)
  queueIds : after.registry.queueIds = before.registry.queueIds
  tables : ∀ {id queue}, after.registry.queues.get? id = some queue → queue.flows.entries = []
  directory : after.registry.directory = .empty
  detached : ∀ id ∈ before.registry.queueIds, after.datapath.device.vectors.get? id = none
  completed : ∀ id, (after.datapath.device.ring id).completed = []
  inFlight : ∀ id, (after.datapath.device.ring id).inFlight =
    (before.datapath.device.ring id).inFlight
  pending : ∀ {id queue}, after.registry.queues.get? id = some queue →
    queue.pending = after.datapath.device.inFlight id
  /-- A second shutdown has nothing to report and nothing to do. -/
  again : after.shutdown = ({}, after)
  silent : ∀ time, after.tick time = ({}, after)

namespace Plane

variable {settings : Settings} {device : Device} {clock : Clock} {plane : Plane} {nodes size : Nat}

/-- The report and the link when all queues are closed. -/
def closed (plane : Plane) : ShutdownReport × Link :=
  plane.registry.queueIds.foldl (closeQueue plane.clock.now) ({}, plane.link)

theorem shutdown_of_running (running : plane.isShutDown = false) :
    plane.shutdown =
      ({ plane.closed.1 with
          flowsDropped := plane.closed.2.registry.forgetAll.1
          buffersOutstanding := plane.closed.2.datapath.pools.allocated },
        { plane.putLink { plane.closed.2 with registry := plane.closed.2.registry.forgetAll.2 } with
          isShutDown := true }) := by
  unfold shutdown
  rw [running]
  rfl

theorem alike_closed (plane : Plane) : plane.closed.2.Alike plane.drained :=
  alike_closeAll (.refl plane.link) _ _

theorem ownership_closed (own : plane.registry.Ownership) :
    plane.closed.2.registry.Ownership := by
  have leads := leads_foldl Prod.snd (leads_closeQueue plane.clock.now) plane.registry.queueIds
    ({}, plane.link)
  exact ownership_of_leads own leads

/-- Closing all queues leaves what is in flight, and no completion. -/
theorem ring_closed (ledger : plane.link.Ledger nodes size 0 0) (id : QueueId) :
    plane.closed.2.datapath.device.ring id = (plane.datapath.device.ring id).emptied := by
  rw [plane.alike_closed.ring]
  refine (Link.ring_drainAll (fun _ listed => listed) id).trans ?_
  by_cases listed : id ∈ plane.registry.queueIds
  · exact if_pos listed
  · have none : plane.datapath.device.ring id = {} := ledger.agree.ring_of_unlisted listed
    refine (if_neg listed).trans ?_
    show plane.datapath.device.ring id = _
    rw [none]
    rfl

theorem queueIds_closed (plane : Plane) :
    plane.closed.2.registry.queueIds = plane.registry.queueIds := by
  rw [plane.alike_closed.registry]
  exact Link.queueIds_drainAll _ _ _

theorem completionsDrained_closed (ledger : plane.link.Ledger nodes size 0 0) :
    plane.closed.1.completionsDrained =
      plane.datapath.device.rings.total (·.completed.length) := by
  have counted : plane.closed.1.completionsDrained = _ :=
    completionsDrained_closeAll plane.registry.queues.ids_nodup fun _ listed => listed
  have summed : plane.datapath.device.rings.total (·.completed.length) = _ :=
    ledger.agree.total_rings rfl
  exact (counted.trans (Nat.zero_add _)).trans summed.symm

/-- The buffers that are out when all queues are closed are those in flight. -/
theorem allocated_closed (ledger : plane.link.Ledger nodes size 0 0) :
    plane.closed.2.datapath.pools.allocated =
      plane.datapath.device.rings.total (·.inFlight.length) := by
  have after : plane.closed.2.Ledger nodes size 0 0 := ledger_closeAll ledger _
  have summed : plane.datapath.device.rings.total (·.inFlight.length) = _ :=
    ledger.agree.total_rings rfl
  calc plane.closed.2.datapath.pools.allocated
    _ = Multiset.card (0 + plane.closed.2.datapath.device.buffers) :=
        after.covers.lend.allocated_eq
    _ = plane.closed.2.datapath.device.rings.total
          fun ring => ring.inFlight.length + ring.completed.length := by
        rw [zero_add, Device.card_buffers]
    _ = (plane.closed.2.registry.queueIds.map fun id =>
          (plane.closed.2.datapath.device.ring id).inFlight.length +
            (plane.closed.2.datapath.device.ring id).completed.length).sum :=
        after.agree.total_rings rfl
    _ = (plane.registry.queueIds.map fun id =>
          (plane.datapath.device.ring id).inFlight.length).sum := by
        simp only [queueIds_closed, ring_closed ledger]
        rfl
    _ = plane.datapath.device.rings.total (·.inFlight.length) := summed.symm

/-- A plane that runs, with its ledger closed and its flows in order, is shut down completely. -/
theorem accounts_of_ledger (ledger : plane.link.Ledger nodes size 0 0)
    (own : plane.registry.Ownership) (running : plane.isShutDown = false) :
    plane.shutdown.1.Accounts plane plane.shutdown.2 := by
  have after := ledger_shutdown ledger
  have rings := ring_closed ledger
  have registry : plane.closed.2.registry = plane.drained.registry := plane.alike_closed.registry
  rw [shutdown_of_running running] at after ⊢
  constructor
  case completions => exact completionsDrained_closed ledger
  case vectors =>
    have released : plane.closed.1.vectorsReleased = 0 + plane.registry.queueIds.length :=
      vectorsReleased_closeAll _ _ _
    refine (released.trans (Nat.zero_add _)).trans ?_
    exact List.length_map _
  case flows =>
    have counted := (ownership_closed own).flowCount_eq
    rw [registry] at counted
    show plane.closed.2.registry.queues.total _ = _
    rw [registry]
    exact counted.symm
  case outstanding => exact allocated_closed ledger
  case queueIds =>
    have kept : Registry.Keeps (fun _ => ()) plane.closed.2.registry _ :=
      Registry.keeps_forgetAll fun _ _ => rfl
    exact kept.queueIds.trans plane.queueIds_closed
  case tables => exact fun found => Registry.entries_forgetAll found
  case directory => exact (ownership_closed own).directory_forgetAll
  case detached => exact fun _ member => detached_closeAll (.inl member)
  case completed => exact fun id => congrArg Ring.completed (rings id)
  case inFlight => exact fun id => (congrArg Ring.inFlight (rings id)).trans rfl
  case pending =>
    intro id queue found
    have counted := after.agree.pending found
    rw [Ring.card_buffers] at counted
    refine counted.trans ?_
    show _ + List.length (plane.closed.2.datapath.device.ring id).completed + 0 = _
    rw [rings id]
    rfl
  case again => rfl
  case silent => exact fun time => rfl

/-- A shutdown accounts for everything, in whatever state a plane is that was brought up on an idle
device and whose buffers and work were left to the packet path. -/
theorem accounts_run (started : start settings device clock = .ok plane) (idle : device.Idle)
    {operations : List PlaneOp} (through : ∀ op ∈ operations, op.bypassesLink = false)
    (running : (plane.run operations).isShutDown = false) :
    let last := plane.run operations
    last.shutdown.1.Accounts last last.shutdown.2 := by
  obtain ⟨registry, made⟩ := started_of_start started
  have small : settings.pool.buffersPerNode.toNat < wordSize :=
    settings.pool.buffersPerNode.toNat_lt
  have ledger := ledger_run (made.ledger idle) small through
  exact accounts_of_ledger ledger (ownership_run started operations) running

/-- Receive buffers that are filled for two flows and not drained: one of the flows is new to the
plane, and is dropped all the same. A third buffer waits for its payload. -/
theorem accounts_run_of_new_flow :
    let settings : Settings := {
      queueCount := 2, maxQueues := 2, pool := { buffersPerNode := 4, bufferSize := 64 } }
    let operations : List PlaneOp := [.part (.link (.send { flow := 5, len := 60 } 7)),
      .part (.device (.complete 1 .ok)), .part (.link (.postReceive 0 3)),
      .part (.device (.receive 0 5 40)), .part (.device (.receive 0 8 40))]
    ∃ plane, start settings { ringCapacity := 4 } {} = .ok plane ∧
      let last := plane.run operations
      last.shutdown.1.Accounts last last.shutdown.2 ∧
        last.registry.flowCount = 1 ∧
        last.shutdown.1 =
          { vectorsReleased := 2, completionsDrained := 3, flowsDropped := 2
            buffersOutstanding := 1 } := by
  intro settings operations
  have started : start settings { ringCapacity := 4 } {} = .ok _ :=
    start_of_room rfl rfl (by decide) rfl (by decide)
  have idle : Device.Idle { ringCapacity := 4 } := ⟨rfl, rfl⟩
  exact ⟨_, started, accounts_run started idle (by decide) (by decide), by decide, by decide⟩

end Plane

end FlowSteer
