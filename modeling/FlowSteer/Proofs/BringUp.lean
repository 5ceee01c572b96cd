import FlowSteer.Proofs.Plane.Placement
import FlowSteer.Proofs.Plane.Start

/-!
# Bring-up

A new plane has placed queues, processors and buffers by three formulas, and has told the device of
it.

1. `hosts_of_places`: for valid settings the formulas agree, so each queue has a processor that
   exists, near it where nodes matter.
2. `Started.told`, `Started.interval`: bindings and interval are what the device was told.
3. `bringsUp_iff`: a bring-up succeeds exactly when the settings are valid and no vector is taken;
   otherwise the device is as before. After it every queue is ready to serve. This holds as long as
   the tables can be allocated for which valid settings ask: `stopped_by_topology`.
-/

namespace FlowSteer

namespace Plane

variable {settings : Settings} {device : Device} {clock : Clock} {plane : Plane}
  {registry : Registry}

/-! ## A new plane -/

/-- No queue of a new registry is bound. -/
theorem cpu?_newRegistry (made : newRegistry settings = .ok registry) (id : QueueId) :
    registry.cpu? id = none := by
  have same : (Registry.empty settings.maxQueues.toNat
      settings.flows.maxFlowsPerQueue.toNat).SameBindings registry :=
    newRegistry_induct (fun registry id node same => same.trans (.register registry id node)) made
      (.refl _)
  exact same.cpu id

/-- A queue of a new plane may be bound to the processor: there is such a processor, and it is of
the node of the queue if nodes matter. -/
structure Hosts (settings : Settings) (id : QueueId) (cpu : CpuId) : Prop where
  exist : cpu < settings.processorCount.toNat
  near : settings.numaAware = true →
    cpu ∈ (newPlanner settings).topology.cpusOf (homeNode settings id)

/-- The node of a queue is one of those that have a pool. -/
theorem homeNode_lt (settings : Settings) (index : Nat) :
    homeNode settings index < max (if settings.numaAware then settings.numaNodes.toNat else 1) 1 := by
  unfold homeNode
  split
  · exact Nat.lt_of_le_of_lt (Nat.mod_le _ _) (blockOf_lt _ _ _)
  · exact Nat.lt_of_lt_of_le Nat.zero_lt_one (Nat.le_max_right _ _)

/-- A first binding is to a processor that exists. -/
theorem lt_of_places (some : 0 < settings.processorCount.toNat)
    (few : settings.processorCount.toNat < wordSize32) {queue : Queue} {cpu : CpuId}
    (placed : (newPlanner settings).Places queue cpu) : cpu < settings.processorCount.toNat := by
  rcases placed with ⟨-, near⟩ | ⟨-, turn, rfl⟩
  · exact ((Topology.mem_cpusOf_uniform_iff few).1 near).1
  · have positive : max settings.processorCount.toNat 1 = settings.processorCount.toNat :=
      Nat.max_eq_left some
    show turn % max settings.processorCount.toNat 1 % wordSize32 < _
    rw [positive]
    exact Nat.lt_of_le_of_lt (Nat.mod_le _ _) (Nat.mod_lt _ some)

/-- A first binding is to a processor that may host the queue. -/
theorem hosts_of_places (fits : settings.Fits)
    (few : settings.processorCount.toNat < wordSize32) {queue : Queue} {id : QueueId} {cpu : CpuId}
    (home : queue.node = homeNode settings id)
    (placed : (newPlanner settings).Places queue cpu) : Hosts settings id cpu := by
  refine ⟨lt_of_places fits.processors few placed, fun aware => ?_⟩
  rw [← home]
  refine placed.elim And.right fun alone => ?_
  -- With as many processors as nodes, the node has one.
  have inside := homeNode_lt settings id
  rw [if_pos aware, ← home] at inside
  have enough : max settings.numaNodes.toNat 1 ≤ settings.processorCount.toNat :=
    Nat.max_le.2 ⟨fits.homes aware, fits.processors⟩
  exact absurd (alone.1 aware) (Topology.cpusOf_uniform_ne_nil few enough inside)

namespace Started

variable (started : Started settings device clock registry plane)
include started

theorem registry_eq :
    plane.registry = registry.bind ((newPlanner settings).bindAll registry).1 := by
  rw [started.assembled]
  rfl

theorem device_eq : plane.datapath.device =
    pushInterval (pushAffinity
        (device.attachedTo settings.completionChannelCapacity.toNat registry.queueIds)
        ((newPlanner settings).bindAll registry).1)
      registry.queueIds (newCoalescer settings).interval := by
  rw [started.assembled]
  rfl

theorem queueIds_eq : plane.registry.queueIds = registry.queueIds := by
  rw [started.registry_eq, Registry.queueIds_bind]

theorem vector {id : QueueId} (present : id ∈ plane.registry.queueIds) :
    plane.datapath.device.vectors.contains id = true := by
  rw [started.queueIds_eq] at present
  rw [started.device_eq, vectors_pushInterval, vectors_pushAffinity, IdMap.contains,
    Device.get?_attachedTo, if_pos present]
  rfl

/-- The interval of a new plane is programmed for each queue. -/
theorem interval {id : QueueId} (present : id ∈ plane.registry.queueIds) :
    plane.datapath.device.coalescing.get? id = some (newCoalescer settings).interval := by
  rw [started.queueIds_eq] at present
  rw [started.device_eq, coalescing_pushInterval, if_pos present]

/-- Every queue of a new plane is bound. -/
theorem bound {id : QueueId} (present : id ∈ plane.registry.queueIds) :
    (plane.registry.cpu? id).isSome := by
  rw [started.queueIds_eq] at present
  rw [started.registry_eq]
  refine Registry.isSome_cpu?_bind present (.inl ?_)
  unfold Planner.bindAll
  rw [Planner.queue_placements]
  exact present

/-- A queue is bound to a processor that it may get, and the device was told of it. -/
theorem told : plane.registry.ToldBindings
    (fun id cpu => ∃ queue, registry.queues.get? id = some queue ∧
      (newPlanner settings).Places queue cpu) plane.datapath.device.affinity := by
  rw [started.registry_eq, started.device_eq, affinity_pushInterval]
  apply Registry.ToldBindings.bind
  · intro binding member
    obtain ⟨queue, listed, placed⟩ := Planner.places_of_mem_placements member
    exact ⟨queue, IdMap.get?_eq_some_iff.2 listed, placed⟩
  · intro id cpu bound
    rw [cpu?_newRegistry started.made] at bound
    cases bound

/-- With counts of 32 bits, the queues are those below the count. -/
theorem queues (few : settings.maxQueues.toNat < wordSize32) (id : QueueId) :
    registry.queues.get? id =
      if id < settings.queueCount.toNat then
        some (.fresh (homeNode settings id) settings.flows.maxFlowsPerQueue.toNat)
      else none := by
  obtain ⟨other, made, queues⟩ :=
    newRegistry_eq_ok (Settings.fits_of_valid started.valid).queues few
  rw [started.made] at made
  cases made
  exact queues id

/-- A queue of a new plane is as it was registered, but for its processor. -/
theorem registered {id : QueueId} {fresh : Queue} (found : registry.queues.get? id = some fresh) :
    ∃ queue, plane.registry.queues.get? id = some queue ∧ queue.status = fresh.status ∧
      queue.counters = fresh.counters ∧ queue.node = fresh.node := by
  have same : registry.Keeps (fun queue => (queue.status, queue.counters, queue.node))
      plane.registry := by
    rw [started.registry_eq]
    exact Registry.keeps_bind (fun _ _ => rfl) _
  obtain ⟨queue, kept, equal⟩ := same.of_before found
  simp only [Prod.mk.injEq] at equal
  exact ⟨queue, kept, equal⟩

/-- The pool of each node of a new plane has all its buffers. -/
theorem pool {node : NodeId}
    (inside : node < max (if settings.numaAware then settings.numaNodes.toNat else 1) 1) :
    plane.datapath.pools.pool? node =
      some (.full node settings.pool.buffersPerNode.toNat settings.pool.bufferSize.toNat) := by
  rw [started.assembled]
  show ((List.range _).map _)[node]? = _
  rw [List.getElem?_map, List.getElem?_range inside]
  rfl

end Started

/-- A queue of a new plane, on a processor. -/
structure Ready (settings : Settings) (plane : Plane) (id : QueueId) (queue : Queue) (cpu : CpuId) :
    Prop where
  registered : plane.registry.queues.get? id = some queue
  status : queue.status = .active
  counters : queue.counters = {}
  vector : plane.datapath.device.vectors.contains id = true
  interval : plane.datapath.device.coalescing.get? id =
    some (settings.coalesce.bound settings.coalesce.initialUsecs.toNat)
  pool : ∃ pool, plane.datapath.pools.pool? queue.node = some pool ∧
    pool.size = settings.pool.buffersPerNode.toNat ∧
    pool.available = settings.pool.buffersPerNode.toNat
  bound : queue.cpu = some cpu
  exist : cpu < settings.processorCount.toNat
  told : plane.datapath.device.affinity.get? id = some cpu
  /-- Where nodes matter, the processor is one of the node of the queue. -/
  near : settings.numaAware = true → cpu ∈ plane.planner.topology.cpusOf queue.node

theorem Started.ready (started : Started settings device clock registry plane)
    (few : settings.maxQueues.toNat < wordSize32)
    (fewProcessors : settings.processorCount.toNat < wordSize32) {id : QueueId}
    (below : id < settings.queueCount.toNat) : ∃ queue cpu, Ready settings plane id queue cpu := by
  have fresh := (started.queues few id).trans (if_pos below)
  obtain ⟨queue, found, status, counters, home⟩ := started.registered fresh
  have present : id ∈ plane.registry.queueIds := IdMap.contains_iff.1 (Option.isSome_of_eq_some found)
  obtain ⟨cpu, bound⟩ := Option.isSome_iff_exists.1 (started.bound present)
  obtain ⟨⟨_, same, placed⟩, told⟩ := started.told _ _ bound
  rw [fresh] at same
  cases same
  have hosts := hosts_of_places (Settings.fits_of_valid started.valid) fewProcessors rfl placed
  rw [Registry.cpu?_of_get? found] at bound
  refine ⟨queue, cpu, ?_⟩
  constructor
  case registered => exact found
  case status => exact status
  case counters => exact counters
  case vector => exact started.vector present
  case interval => exact started.interval present
  case pool =>
    rw [home]
    refine ⟨_, started.pool (homeNode_lt settings id), rfl, ?_⟩
    exact (List.length_map _).trans List.length_range
  case bound => exact bound
  case exist => exact hosts.exist
  case told => exact told
  case near =>
    rw [home, started.assembled]
    exact hosts.near

/-- A bring-up succeeds exactly when it can, and otherwise leaves the device as it was. -/
structure BringsUp (settings : Settings) (device : Device) (clock : Clock) : Prop where
  /-- The program does not stop. -/
  answers : start settings device clock ≠ .error .stopped
  succeeds : (∃ plane, start settings device clock = .ok plane) ↔
    settings.validate = .ok () ∧
      ∀ id < settings.queueCount.toNat, device.vectors.contains id = false
  traceless : ∀ {error left}, start settings device clock = .error (.refused error left) →
    left = device
  /-- After it every queue is ready to serve. -/
  ready : ∀ {plane}, start settings device clock = .ok plane →
    ∀ id < settings.queueCount.toNat, ∃ queue cpu, Ready settings plane id queue cpu

namespace BringsUp

/-- A bring-up that is refused, and for a reason. -/
theorem of_refused {error : ControlError}
    (result : start settings device clock = .error (.refused error device))
    (refused : ¬(settings.validate = .ok () ∧
      ∀ id < settings.queueCount.toNat, device.vectors.contains id = false)) :
    BringsUp settings device clock := by
  constructor
  case answers =>
    rw [result]
    exact nofun
  case succeeds =>
    rw [result]
    constructor
    · rintro ⟨_, succeeded⟩
      cases succeeded
    · exact fun accepted => absurd accepted refused
  case traceless =>
    intro _ _ failed
    rw [result] at failed
    cases failed
    rfl
  case ready =>
    intro _ succeeded
    rw [result] at succeeded
    cases succeeded

/-- A bring-up that succeeds, and for a reason. -/
theorem of_started (few : settings.maxQueues.toNat < wordSize32)
    (fewProcessors : settings.processorCount.toNat < wordSize32)
    (result : start settings device clock = .ok plane)
    (accepted : settings.validate = .ok () ∧
      ∀ id < settings.queueCount.toNat, device.vectors.contains id = false) :
    BringsUp settings device clock := by
  constructor
  case answers =>
    rw [result]
    exact nofun
  case succeeds => exact ⟨fun _ => accepted, fun _ => ⟨plane, result⟩⟩
  case traceless =>
    intro _ _ failed
    rw [result] at failed
    cases failed
  case ready =>
    intro _ succeeded id below
    obtain ⟨registry, started⟩ := started_of_start succeeded
    exact started.ready few fewProcessors below

end BringsUp

/-- With a number of queues of 32 bits there is room for their places. -/
theorem hasTables_of_few (few : settings.maxQueues.toNat < wordSize32) :
    hasTables settings =
      allocates settings.completionChannelCapacity.toNat Channel.slotBytes := by
  have places : allocates settings.maxQueues.toNat Registry.slotBytes = true :=
    decide_eq_true <| calc settings.maxQueues.toNat * Registry.slotBytes
      _ ≤ wordSize32 * Registry.slotBytes := Nat.mul_le_mul_right _ (Nat.le_of_lt few)
      _ ≤ tableMax := by decide
  unfold hasTables
  rw [places, Bool.true_and]

/-- With counts of 32 bits, over every device: a bring-up does as it should exactly when the tables
can be allocated that it gets to. Invalid settings do not get to any, and a vector that is taken
comes before the topology. -/
theorem bringsUp_iff (few : settings.maxQueues.toNat < wordSize32)
    (fewProcessors : settings.processorCount.toNat < wordSize32) (device : Device)
    (clock : Clock) :
    BringsUp settings device clock ↔ (settings.validate = .ok () →
      allocates settings.completionChannelCapacity.toNat Channel.slotBytes = true ∧
        ((∀ id < settings.queueCount.toNat, device.vectors.contains id = false) →
          allocates settings.numaNodes.toNat Topology.nodeBytes = true)) := by
  have tables := hasTables_of_few few
  rcases start_cases few device clock with
    ⟨error, invalid, result⟩ | ⟨valid, ⟨noTables, result⟩ | ⟨hasTables, outcome⟩⟩
  · apply iff_of_true
    · refine .of_refused result fun accepted => ?_
      cases invalid.symm.trans accepted.1
    · intro valid
      cases invalid.symm.trans valid
  · refine iff_of_false (fun bringsUp => bringsUp.answers result) fun allocated => ?_
    rw [← tables, noTables] at allocated
    cases (allocated valid).1
  · rw [tables] at hasTables
    rcases outcome with ⟨id, below, taken, result⟩ | ⟨free, plane, result⟩
    · have notFree : ¬∀ id < settings.queueCount.toNat, device.vectors.contains id = false :=
        fun free => absurd taken (ne_true_of_eq_false (free id below))
      apply iff_of_true
      · exact .of_refused result fun accepted => notFree accepted.2
      · exact fun _ => ⟨hasTables, fun free => absurd free notFree⟩
    · rw [Nat.max_eq_left (Settings.fits_of_valid valid).nodes] at result
      cases nodes : allocates settings.numaNodes.toNat Topology.nodeBytes with
      | false =>
          rw [needTable_of_false nodes] at result
          refine iff_of_false (fun bringsUp => bringsUp.answers result) fun allocated => ?_
          cases (allocated valid).2 free
      | true =>
          rw [needTable_of_true nodes] at result
          apply iff_of_true
          · exact .of_started few fewProcessors result ⟨valid, free⟩
          · exact fun _ => ⟨hasTables, fun _ => rfl⟩

/-- Seven queues and five processors over three nodes: the last node has the last three queues and
the last three processors. -/
theorem bringsUp_iff_of_uneven_blocks :
    let settings : Settings := {
      queueCount := 7, maxQueues := 8, numaNodes := 3, processorCount := 5
      pool := { buffersPerNode := 2, bufferSize := 64 } }
    BringsUp settings { ringCapacity := 4 } {} ∧
      ∃ plane, start settings { ringCapacity := 4 } {} = .ok plane ∧
        (List.range 7).map plane.registry.cpu? =
          [some 0, some 0, some 1, some 1, some 2, some 3, some 4] := by
  intro settings
  have bringsUp := (bringsUp_iff (by decide) (by decide) { ringCapacity := 4 } {}).2
    fun _ : settings.validate = .ok () => ⟨by decide, fun _ => by decide⟩
  exact ⟨bringsUp, _, start_of_room rfl rfl (by decide) rfl (by decide), by decide⟩

/-- Where nodes do not matter, valid settings can have any number of them; with the largest number
the bring-up stops, after the vector of the queue is attached. -/
theorem stopped_by_topology :
    let settings : Settings := {
      queueCount := 1, maxQueues := 1, numaAware := false, numaNodes := 0xFFFFFFFFFFFFFFFF
      processorCount := 4, pool := { buffersPerNode := 2, bufferSize := 64 } }
    let device : Device := { ringCapacity := 64 }
    settings.validate = .ok () ∧ (∀ id < 1, device.vectors.contains id = false) ∧
      (attachVectors settings device [0]).isOk = true ∧
      start settings device {} = .error .stopped ∧ ¬BringsUp settings device {} := by
  intro settings device
  have stopped : start settings device {} = .error .stopped := by
    rw [start_of_attached rfl rfl (by decide) rfl, needTable_of_false (by decide)]
    rfl
  exact ⟨rfl, by decide, by decide, stopped, fun bringsUp => bringsUp.answers stopped⟩

end Plane

end FlowSteer
