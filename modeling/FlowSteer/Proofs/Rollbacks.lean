import FlowSteer.Proofs.Conservation
import FlowSteer.Proofs.Link.Endings

/-!
# Refused transfers are rolled back

After every run, a packet that is refused and receive buffers that are refused leave next to nothing
behind (`Link.RollsBack`, `System.rollsBack_run`): mappings, buffers, rings, flows and the directory
are as before, whichever of the steps before the refusal succeeded.

The exception is pending work. It is counted before the device is asked, and a count that runs over
2⁶⁴ cannot be taken back (`System.pending_not_restored`). That takes work counted past the packet
path: as long as pending work is left to the packet path, the count never runs over.
-/

namespace FlowSteer

/-- A pool with the same buffers free, perhaps in another order, and as many out. -/
def Pool.Reordered (before after : Pool) : Prop :=
  after = { before with free := after.free } ∧ after.free.Perm before.free

namespace Datapath

/-- The datapath apart from the order of free buffers, the next address, and at most one fault that
is used up. -/
structure Restored (before after : Datapath) : Prop where
  pools : List.Forall₂ Pool.Reordered before.pools.pools after.pools.pools
  device : after.device = { before.device with
    nextAddress := after.device.nextAddress
    faults := after.device.faults }
  faults : after.device.faults = before.device.faults ∨
    after.device.faults + 1 = before.device.faults
  rest : after = { before with pools := after.pools, device := after.device }

variable {datapath : Datapath} {node : NodeId} {pool : Pool}

theorem Restored.refl (datapath : Datapath) : Restored datapath datapath :=
  ⟨List.forall₂_same.2 fun _ _ => ⟨rfl, .refl _⟩, rfl, .inl rfl, rfl⟩

/-- Turning one pool round reorders its free buffers. -/
theorem reordered_turn {pools : Pools} (found : pools.pool? node = some pool) (number : Nat) :
    List.Forall₂ Pool.Reordered pools.pools (pools.put node (pool.turn number)).pools := by
  obtain ⟨present, rfl⟩ := List.getElem?_eq_some_iff.1 found
  refine List.forall₂_iff_get.2 ⟨List.length_set.symm, fun position inBefore inAfter => ?_⟩
  have placed : (pools.put node (pools.pools[node].turn number)).pools.get ⟨position, inAfter⟩ =
      if node = position then pools.pools[node].turn number else pools.pools[position] :=
    List.getElem_set inAfter
  rw [placed]
  split
  · rename_i same
    subst same
    exact ⟨rfl, List.rotate_perm _ _⟩
  · exact ⟨rfl, .refl _⟩

theorem Restored.turned (found : datapath.pools.pool? node = some pool) (number : Nat) :
    Restored datapath (datapath.turned node pool number) :=
  ⟨reordered_turn found number, rfl, .inl rfl, rfl⟩

theorem Restored.misfire (found : datapath.pools.pool? node = some pool)
    (faulty : 0 < datapath.device.faults) : Restored datapath (datapath.misfire node pool) :=
  ⟨reordered_turn found 1, rfl, .inr (Nat.sub_add_cancel faulty), rfl⟩

end Datapath

namespace Link

/-- The pending work of a queue would not run over with the descriptors for which there are
buffers. -/
def Fits (link : Link) (queue : Queue) (number : Nat) : Prop :=
  queue.pending + link.datapath.obtainable queue.node number < wordSize

/-- After a refused packet one drop is counted, on the queue and in the statistics, and the datapath
is restored. -/
structure OnlyDrops (before : Link) (id : QueueId) (queue : Queue) (after : Link) : Prop where
  registry : ∃ pending, after.registry = before.registry.putQueue id
      { queue with pending, counters := queue.counters.addDrop .tx } ∧
    (before.Fits queue 1 → pending = queue.pending)
  datapath : ∃ restored, before.datapath.Restored restored ∧
    after.datapath = restored.count fun stats => { stats with dropped := stats.dropped + 1 }

/-- After refused receive buffers nothing is counted, and the datapath is restored. -/
structure OnlyReturns (before : Link) (id : QueueId) (queue : Queue) (number : Nat)
    (after : Link) : Prop where
  registry : ∃ pending, after.registry = before.registry.putQueue id { queue with pending } ∧
    (before.Fits queue number → pending = queue.pending)
  datapath : before.datapath.Restored after.datapath

/-- Refused transfers are rolled back. -/
structure RollsBack (link : Link) : Prop where
  /-- A packet without a queue leaves nothing; one that has a queue is dropped. -/
  send : ∀ {packet latency now error after},
    link.send packet latency now = (.error error, after) →
    ((∃ id, error = .outOfService id ∨ error = .noSuchQueue id) ∧ after = link) ∨
    ∃ id queue, link.registry.steer packet.flow = .ok id ∧
      link.registry.queues.get? id = some queue ∧
      (error = .noBuffer queue.node ∨ (∃ reason, error = .mapRefused reason) ∨
        error = .ringFull id) ∧
      link.OnlyDrops id queue after
  /-- So are receive buffers, however many of them were taken. -/
  postReceive : ∀ {id number error after},
    link.postReceive id number = (.error error, after) →
    (error = .noSuchQueue id ∧ after = link) ∨
    ∃ queue, link.registry.queues.get? id = some queue ∧
      link.OnlyReturns id queue number after

variable {link : Link} {id : QueueId} {queue : Queue}

theorem onlyDrops_of_restored {datapath : Datapath}
    (restored : link.datapath.Restored datapath) :
    link.OnlyDrops id queue (link.dropped id queue datapath) :=
  ⟨⟨queue.pending, rfl, fun _ => rfl⟩, datapath, restored, rfl⟩

theorem onlyReturns_of_restored (found : link.registry.queues.get? id = some queue)
    {datapath : Datapath} (restored : link.datapath.Restored datapath) (number : Nat) :
    link.OnlyReturns id queue number { link with datapath } :=
  ⟨⟨queue.pending, (Registry.putQueue_self found).symm, fun _ => rfl⟩, restored⟩

theorem rollsBack_of_tidy (tidy : link.datapath.pools.Tidy) : link.RollsBack where
  send := by
    intro packet latency now error after refused
    rcases send_refused tidy refused with
      unsteered | ⟨id, queue, steered, found, ⟨kind, left⟩ | ⟨pool, present, stocked, ends⟩⟩
    · exact .inl unsteered
    · refine .inr ⟨id, queue, steered, found, .inl kind, ?_⟩
      rw [left]
      exact onlyDrops_of_restored (.refl _)
    · rcases ends with ⟨faulty, kind, left⟩ | ⟨working, kind, left⟩
      · refine .inr ⟨id, queue, steered, found, .inr (.inl kind), ?_⟩
        rw [left]
        exact onlyDrops_of_restored (.misfire present faulty)
      · refine .inr ⟨id, queue, steered, found, .inr (.inr kind), ?_⟩
        rw [left]
        refine ⟨⟨(queue.withdraw 1).pending, rfl, fun fits => ?_⟩, _, .turned present 1, rfl⟩
        unfold Fits at fits
        rw [Datapath.obtainable_of_working present working, Nat.min_eq_left stocked] at fits
        rw [Queue.withdraw_of_fits fits]
  postReceive := by
    intro id number error after refused
    cases found : link.registry.queues.get? id with
    | none =>
        rw [postReceive_of_absent found] at refused
        cases refused
        exact .inl ⟨rfl, rfl⟩
    | some queue =>
        refine .inr ⟨queue, rfl, ?_⟩
        rcases postReceive_endings tidy found number with
          ⟨_, result⟩ | ⟨_, _, result⟩ | ⟨pool, _, present, _, ends⟩
        · rw [result] at refused
          cases refused
          exact onlyReturns_of_restored found (.refl _) number
        · rw [result] at refused
          cases refused
          exact onlyReturns_of_restored found (.refl _) number
        · rcases ends with ⟨faulty, _, result⟩ | ⟨working, ⟨_, result⟩ | ⟨_, result⟩⟩
          · rw [result] at refused
            cases refused
            exact onlyReturns_of_restored found (.misfire present faulty) number
          · rw [result] at refused
            cases refused
            refine ⟨⟨(queue.withdraw (min number pool.available)).pending, rfl, fun fits => ?_⟩,
              .turned present _⟩
            unfold Fits at fits
            rw [Datapath.obtainable_of_working present working] at fits
            rw [Queue.withdraw_of_fits fits]
          · rw [result] at refused
            cases refused

/-- Where the ledger is closed, no count of pending work can run over. -/
theorem Ledger.fits_obtainable {nodes size : Nat} (ledger : Ledger nodes size 0 0 link)
    (small : size < wordSize) (tidy : link.datapath.pools.Tidy)
    (found : link.registry.queues.get? id = some queue) (number : Nat) :
    link.Fits queue number := by
  cases taken : Datapath.takeReceiveBuffers queue.node number link.datapath with
  | mk descriptors tail =>
      obtain ⟨refusal, datapath⟩ := tail
      obtain ⟨covers, same, homed⟩ := ledger.covers.takeReceiveBuffers _ _ taken
      rw [add_zero] at covers
      have length := Datapath.length_takeReceiveBuffers tidy queue.node number
      rw [taken] at length
      have fits := (ledger.of_covers covers same).fits small found homed
      rw [Descriptor.card_buffersOf, length] at fits
      exact fits

end Link

namespace System

/-- After every run refused transfers are rolled back, as far as pending work does not run over; and
it never does when it is left to the packet path. The size of a pool is a machine word. -/
theorem rollsBack_run (blueprint : Blueprint) (operations : List Operation) :
    ((fresh blueprint).run operations).link.RollsBack ∧
    (blueprint.buffersPerNode < wordSize →
      (∀ operation ∈ operations, operation.changesWork = false) →
      ∀ {id queue},
        ((fresh blueprint).run operations).registry.queues.get? id = some queue →
        ∀ number, ((fresh blueprint).run operations).link.Fits queue number) := by
  have tidy : ((fresh blueprint).run operations).link.datapath.pools.Tidy :=
    tidy_run blueprint operations
  refine ⟨Link.rollsBack_of_tidy tidy, ?_⟩
  intro small indirect id queue found number
  have kept : ∀ (system : System) operation, operation.changesWork = false →
      system.link.Ledger (max blueprint.nodes 1) blueprint.buffersPerNode 0 0 →
      (system.step operation).link.Ledger (max blueprint.nodes 1) blueprint.buffersPerNode 0 0 :=
    fun _ operation isIndirect ledger => ledger_step ledger small operation isIndirect
  have ledger := run_induct kept indirect (ledger_fresh blueprint)
  exact ledger.fits_obtainable small tidy found number

/-- Three receive buffers were taken when the ring turned out to have room for two, and then a
packet was refused as its buffer could not be mapped. -/
theorem rollsBack_run_of_full_ring :
    let blueprint : Blueprint := {
      capacity := 4, maxFlows := 8, buffersPerNode := 4, ringCapacity := 2 }
    let operations : List Operation := [.registry (.register 0 0), .link (.postReceive 0 3),
      .device (.injectFaults 1), .link (.send { flow := 5, len := 60 } 7)]
    let link := ((fresh blueprint).run operations).link
    link.RollsBack ∧ (∀ {id queue}, link.registry.queues.get? id = some queue →
        ∀ number, link.Fits queue number) ∧
      link.datapath.stats.dropped = 1 ∧ link.datapath.device.nextAddress = 0x4000 ∧
      (link.datapath.pools.pool? 0).map (·.free) = some [0, 1, 2, 3] :=
  ⟨(rollsBack_run _ _).1, (rollsBack_run _ _).2 (by decide) (by decide), by decide, by decide,
    by decide⟩

/-- With work counted up to the largest word, a packet for which there is no room in the ring runs
the count over, and it cannot be taken back. -/
theorem pending_not_restored :
    let link := ((fresh {
      capacity := 4, maxFlows := 8, buffersPerNode := 1, ringCapacity := 0 }).run
        [.registry (.register 0 0), .registry (.addWork 0 wordMax)]).link
    let sent := link.send { flow := 1, len := 60 } 0 0
    sent.1 = .error (.ringFull 0) ∧
      (link.registry.queues.get? 0).map (·.pending) = some wordMax ∧
      (sent.2.registry.queues.get? 0).map (·.pending) = some 0 := by
  decide

end System

end FlowSteer
