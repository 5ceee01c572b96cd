import FlowSteer.Proofs.Registry.Bindings
import FlowSteer.Proofs.Registry.Moves

/-!
# Upkeep of queues

Binding queues to processors and forgetting idle flows change each queue by itself: it gets another
processor, and its table keeps some of its flows (`Upkeep`). `Registry.Upkept` relates a registry to
the one after such an upkeep of all its queues. Where tables and directory agree, there is only one
such registry (`Upkept.unique`).

* `upkept_bind`, `upkept_forgetIdle`: both are upkeep;
* `Upkept.adjust`, `Upkept.moveAll`: statuses and counters are set, and all flows of a queue moved,
  with the same effect before an upkeep as after it.

An upkeep that forgets flows leaves fewer to be moved. `Upkeep.recount` is what the number of flows
in a table and the number of those that are kept have in common: the number itself when all are
kept, and nothing when some may be forgotten.
-/

namespace FlowSteer

/-! ## One queue -/

/-- What is done for the upkeep of a queue. -/
structure Upkeep where
  /-- The processor of a queue, by its processor before. -/
  cpu : QueueId → Option CpuId → Option CpuId
  /-- Is a flow kept. -/
  keeps : Flow → Bool
  /-- What of a number of flows does not change with the flows that are not kept. -/
  recount : Nat → Nat
  recount_size : ∀ flows : IdMap Flow,
    recount (flows.filter fun _ flow => keeps flow).size = recount flows.size

namespace Upkeep

variable (upkeep : Upkeep)

/-- The flows that are kept. -/
def table (table : FlowTable) : FlowTable :=
  { table with flows := table.flows.filter fun _ flow => upkeep.keeps flow }

/-- A queue after its upkeep. -/
def queue (id : QueueId) (queue : Queue) : Queue :=
  { queue with cpu := upkeep.cpu id queue.cpu, flows := upkeep.table queue.flows }

/-- No upkeep at all. Flows are not counted. -/
def none : Upkeep where
  cpu _ cpu := cpu
  keeps _ := true
  recount _ := 0
  recount_size _ := rfl

/-- Binding queues to processors. -/
def binding (bindings : List Binding) : Upkeep where
  cpu id cpu := bindings.foldl (fun cpu binding =>
    if id = binding.queue then some binding.target else cpu) cpu
  keeps _ := true
  recount := id
  recount_size flows := by rw [flows.filter_true]

/-- Forgetting the flows that were idle for longer than a timeout. -/
def aging (time timeout : Nat) : Upkeep where
  cpu _ cpu := cpu
  keeps flow := !flow.isIdle time timeout
  recount _ := 0
  recount_size _ := rfl

theorem get?_table (table : FlowTable) (flow : FlowId) :
    (upkeep.table table).get? flow = (table.get? flow).filter upkeep.keeps :=
  table.flows.get?_filter _ flow

theorem table_of_keeps {upkeep : Upkeep} (all : upkeep.keeps = fun _ => true) (table : FlowTable) :
    upkeep.table table = table := by
  unfold Upkeep.table
  rw [all, table.flows.filter_true]

theorem queue_none (id : QueueId) (queue : Queue) : none.queue id queue = queue :=
  congrArg (fun flows => { queue with flows }) (table_of_keeps rfl queue.flows)

theorem queue_binding (bindings : List Binding) (id : QueueId) (queue : Queue) :
    (binding bindings).queue id queue =
      { queue with cpu := (binding bindings).cpu id queue.cpu } := by
  have flows : (binding bindings).table queue.flows = queue.flows := table_of_keeps rfl queue.flows
  exact congrArg (fun flows => { queue with cpu := (binding bindings).cpu id queue.cpu, flows })
    flows

/-- The binding that comes first is done first. -/
theorem cpu_binding_cons (first : Binding) (rest : List Binding) (id : QueueId)
    (cpu : Option CpuId) :
    (binding (first :: rest)).cpu id cpu =
      (binding rest).cpu id (if id = first.queue then some first.target else cpu) := rfl

end Upkeep

theorem FlowTable.ext_get? {first second : FlowTable} (capacity : first.capacity = second.capacity)
    (same : ∀ flow, first.get? flow = second.get? flow) : first = second := by
  cases first
  cases second
  obtain rfl : _ = _ := capacity
  exact congrArg (FlowTable.mk _) (IdMap.ext same)

namespace Registry

variable {upkeep : Upkeep} {registry before after other : Registry}

/-! ## All queues -/

/-- Where tables and directory agree, the tables determine the directory. -/
theorem Ownership.eq_of_queues (own : before.Ownership) (ownAfter : after.Ownership)
    (capacity : after.capacity = before.capacity) (maxFlows : after.maxFlows = before.maxFlows)
    (queues : after.queues = before.queues) : after = before := by
  have flows : ∀ id flow, after.flow? id flow = before.flow? id flow := by
    intro id flow
    rw [flow?, flow?, queues]
  have directory : after.directory = before.directory := by
    ext flow id
    show after.ownerOf flow = some id ↔ before.ownerOf flow = some id
    rw [own.listed, ownAfter.listed, flows]
  cases before
  cases after
  simp only at capacity maxFlows queues directory
  rw [capacity, maxFlows, queues, directory]

/-- The later registry is the earlier one after an upkeep of its queues. -/
structure Upkept (upkeep : Upkeep) (before after : Registry) : Prop where
  own : before.Ownership
  ownAfter : after.Ownership
  capacity : after.capacity = before.capacity
  maxFlows : after.maxFlows = before.maxFlows
  queues : ∀ id, after.queues.get? id = (before.queues.get? id).map (upkeep.queue id)

namespace Upkept

theorem refl (own : registry.Ownership) : Upkept .none registry registry where
  own := own
  ownAfter := own
  capacity := rfl
  maxFlows := rfl
  queues := by
    intro id
    have same : Upkeep.none.queue id = fun queue => queue := funext (Upkeep.queue_none id)
    rw [same]
    exact Option.map_id'.symm

/-- There is one registry after an upkeep. -/
theorem unique (upkept : Upkept upkeep before after) (again : Upkept upkeep before other) :
    after = other := by
  refine again.ownAfter.eq_of_queues upkept.ownAfter (upkept.capacity.trans again.capacity.symm)
    (upkept.maxFlows.trans again.maxFlows.symm) ?_
  ext1 id
  rw [upkept.queues, again.queues]

theorem found (upkept : Upkept upkeep before after) {id : QueueId} {queue : Queue}
    (found : before.queues.get? id = some queue) :
    after.queues.get? id = some (upkeep.queue id queue) := by
  rw [upkept.queues, found, Option.map_some]

theorem queue (upkept : Upkept upkeep before after) (id : QueueId) :
    after.queue id = (before.queue id).map (upkeep.queue id) := by
  unfold Registry.queue
  rw [upkept.queues]
  cases before.queues.get? id <;> rfl

/-! ## Statuses and counters -/

/-- A change of one queue that leaves alone what upkeep changes. -/
theorem adjust (upkept : Upkept upkeep before after) (id : QueueId) {change : Queue → Queue}
    (apart : ∀ queue, upkeep.queue id (change queue) = change (upkeep.queue id queue))
    (flows : ∀ queue, (change queue).flows = queue.flows) :
    Upkept upkeep (before.adjust id change) (after.adjust id change) where
  own := upkept.own.adjust rfl flows
  ownAfter := upkept.ownAfter.adjust rfl flows
  capacity := upkept.capacity
  maxFlows := upkept.maxFlows
  queues := by
    intro other
    rw [get?_adjust, get?_adjust, upkept.queues]
    by_cases same : other = id
    · subst same
      rw [if_pos rfl, if_pos rfl, Option.map_map, Option.map_map]
      exact Option.map_congr fun queue _ => (apart queue).symm
    · rw [if_neg same, if_neg same]

theorem clearErrors (upkept : Upkept upkeep before after) (id : QueueId) (status : QueueStatus) :
    Upkept upkeep (before.clearErrors id status).2 (after.clearErrors id status).2 := by
  rw [clearErrors_snd, clearErrors_snd]
  exact upkept.adjust id (fun _ => rfl) fun _ => rfl

/-! ## Moving all flows -/

/-- Upkeep does not refuse moves, nor allow any. -/
theorem moveEnds (upkept : Upkept upkeep before after) (source target : QueueId) :
    after.moveEnds source target = (before.moveEnds source target).map fun ends =>
      (upkeep.queue source ends.1, upkeep.queue target ends.2) := by
  rw [moveEnds_eq, moveEnds_eq, upkept.queue, upkept.queue]
  by_cases same : source = target
  · rw [if_pos same, if_pos same]
    rfl
  · rw [if_neg same, if_neg same]
    cases before.queue source with
    | error error => rfl
    | ok sourceQueue =>
        cases before.queue target with
        | error error => rfl
        | ok targetQueue =>
            have failed : (upkeep.queue target targetQueue).isFailed = targetQueue.isFailed := rfl
            simp only [Except.map, failed]
            cases targetQueue.isFailed <;> rfl

/-- A target takes in what is kept of a source and keeps it. -/
theorem table_absorbed (upkept : Upkept upkeep before after) {source target : QueueId}
    {sourceQueue targetQueue : Queue}
    (ends : before.moveEnds source target = .ok (sourceQueue, targetQueue)) :
    upkeep.table (sourceQueue.flows.entries.foldl FlowTable.absorb targetQueue.flows) =
      (upkeep.table sourceQueue.flows).entries.foldl FlowTable.absorb
        (upkeep.table targetQueue.flows) := by
  have endsAfter : after.moveEnds source target =
      .ok (upkeep.queue source sourceQueue, upkeep.queue target targetQueue) := by
    rw [upkept.moveEnds, ends]
    rfl
  obtain ⟨different, sourceFound, targetFound, -⟩ := moveEnds_eq_ok_iff.1 ends
  apply FlowTable.ext_get?
  · rw [FlowTable.capacity_foldl_absorb]
    exact FlowTable.capacity_foldl_absorb _ _
  · intro flow
    rw [upkeep.get?_table, upkept.own.get?_absorbed ends]
    refine Eq.trans ?_ (upkept.ownAfter.get?_absorbed endsAfter flow).symm
    show _ = ((upkeep.table sourceQueue.flows).get? flow).or
      ((upkeep.table targetQueue.flows).get? flow)
    rw [upkeep.get?_table, upkeep.get?_table]
    cases kept : sourceQueue.flows.get? flow with
    | none => rfl
    | some entry =>
        -- The target has no flow of the source, so that dropping the one brings up no other.
        have held : sourceQueue.flows.contains flow = true := FlowTable.contains_iff.2 ⟨entry, kept⟩
        have absent := FlowTable.contains_eq_false_iff.1
          (upkept.own.absent_of_ne different sourceFound targetFound held)
        rw [absent, Option.some_or, Option.filter_none, Option.or_none]

/-- All flows of a queue move in the same way before an upkeep and after it. Of a queue with fewer
flows fewer are moved. -/
theorem moveAll (upkept : Upkept upkeep before after) (source target : QueueId) :
    (after.moveAll source target).1.map upkeep.recount =
        (before.moveAll source target).1.map upkeep.recount ∧
      Upkept upkeep (before.moveAll source target).2 (after.moveAll source target).2 := by
  have own := upkept.own.moveAll source target
  have ownAfter := upkept.ownAfter.moveAll source target
  unfold Registry.moveAll at own ownAfter ⊢
  cases ends : before.moveEnds source target with
  | error error =>
      have endsAfter : after.moveEnds source target = .error error := by
        rw [upkept.moveEnds, ends]
        rfl
      rw [endsAfter]
      exact ⟨rfl, upkept⟩
  | ok pair =>
      obtain ⟨sourceQueue, targetQueue⟩ := pair
      have endsAfter : after.moveEnds source target =
          .ok (upkeep.queue source sourceQueue, upkeep.queue target targetQueue) := by
        rw [upkept.moveEnds, ends]
        rfl
      rw [ends] at own
      rw [endsAfter] at ownAfter ⊢
      have counts : upkeep.recount (upkeep.table sourceQueue.flows).entries.length =
          upkeep.recount sourceQueue.flows.entries.length := by
        unfold FlowTable.entries IdMap.values
        rw [List.length_map, List.length_map]
        exact upkeep.recount_size sourceQueue.flows.flows
      refine ⟨congrArg Except.ok counts, own, ownAfter, upkept.capacity, upkept.maxFlows, ?_⟩
      intro id
      show ((after.putQueue source _).putQueue target _).queues.get? id =
        (((before.putQueue source _).putQueue target _).queues.get? id).map (upkeep.queue id)
      rw [get?_putQueue, get?_putQueue, get?_putQueue, get?_putQueue]
      by_cases atTarget : id = target
      · subst atTarget
        rw [if_pos rfl, if_pos rfl, Option.map_some]
        exact congrArg (fun flows => some { upkeep.queue id targetQueue with flows })
          (upkept.table_absorbed ends).symm
      · rw [if_neg atTarget, if_neg atTarget]
        by_cases atSource : id = source
        · subst atSource
          rw [if_pos rfl, if_pos rfl, Option.map_some]
          rfl
        · rw [if_neg atSource, if_neg atSource, upkept.queues]

end Upkept

/-! ## Binding and aging -/

theorem upkept_bind (own : registry.Ownership) (bindings : List Binding) :
    Upkept (.binding bindings) registry (registry.bind bindings) where
  own := own
  ownAfter := own.of_keeps rfl (keeps_bind (fun _ _ => rfl) bindings)
  capacity := rfl
  maxFlows := rfl
  queues := by
    intro id
    rw [funext (Upkeep.queue_binding bindings id)]
    induction bindings generalizing registry with
    | nil => exact Option.map_id'.symm
    | cons binding rest ih =>
        have ownFirst : (registry.adjust binding.queue
            ({ · with cpu := some binding.target })).Ownership := own.adjust rfl fun _ => rfl
        rw [bind_cons, ih ownFirst, get?_adjust]
        simp only [Upkeep.cpu_binding_cons]
        by_cases same : id = binding.queue
        · simp only [same, if_true, Option.map_map]
          rfl
        · simp only [same, if_false]

theorem upkept_forgetIdle (own : registry.Ownership) (time timeout : Nat) :
    Upkept (.aging time timeout) registry (registry.forgetIdle time timeout).2 where
  own := own
  ownAfter := own.forgetIdle time timeout
  capacity := rfl
  maxFlows := rfl
  queues := registry.get?_queues_forgetIdle time timeout

/-! ## Numbers of flows -/

/-- Failover moves flows, and there are as many after it. -/
theorem Leads.flowCount {now : Nat} (leads : Leads RegistryOp.byFailover now before after)
    (own : before.Ownership) : after.flowCount = before.flowCount := by
  let reached : Registry → Prop := fun later =>
    later.Ownership ∧ later.flowCount = before.flowCount
  have start : reached before := ⟨own, rfl⟩
  suffices kept : reached after from kept.2
  apply leads.induct _ start
  rintro registry op allowed ⟨own, same⟩
  refine ⟨own.registryOp now op, Eq.trans ?_ same⟩
  cases op with
  | setStatus id status =>
      show (registry.setStatus id status).2.flowCount = _
      rw [setStatus_snd]
      rfl
  | clearErrors id status =>
      show (registry.clearErrors id status).2.flowCount = _
      rw [clearErrors_snd]
      rfl
  | updateStatus id choose =>
      show (registry.updateStatus id choose).2.flowCount = _
      rw [updateStatus_snd]
      rfl
  | moveFlow flow source target =>
      show (registry.moveFlow flow source target).2.flowCount = _
      rcases registry.moveFlow_cases flow source target with
        ⟨_, result⟩ | ⟨sourceQueue, _, moving, ends, found, _, result⟩
      · rw [result]
      · obtain ⟨-, sourceFound, -, -⟩ := moveEnds_eq_ok_iff.1 ends
        have owned := (own.held_iff sourceFound flow).1 (FlowTable.contains_iff.2 ⟨moving, found⟩)
        have listed : registry.directory.contains flow = true := Option.isSome_of_eq_some owned
        have single : ∀ entry ∈ [(flow, target)], registry.directory.contains entry.1 = true :=
          List.forall_mem_singleton.2 listed
        rw [result]
        exact IdMap.size_insertAll_of_contains single
  | moveAll source target =>
      show (registry.moveAll source target).2.flowCount = _
      rcases registry.moveAll_cases source target with
        ⟨_, result⟩ | ⟨sourceQueue, _, ends, result⟩
      · rw [result]
      · obtain ⟨-, sourceFound, -, -⟩ := moveEnds_eq_ok_iff.1 ends
        rw [result]
        apply IdMap.size_insertAll_of_contains
        intro entry listed
        obtain ⟨moving, member, rfl⟩ := List.mem_map.1 listed
        have held := own.contains_of_mem_entries sourceFound member
        exact Option.isSome_of_eq_some ((own.held_iff sourceFound moving.id).1 held)
  | _ => cases allowed

/-- Each flow is forgotten and counted, or is left. -/
theorem Ownership.forgotten_add_left (own : registry.Ownership) (time timeout : Nat) :
    (registry.forgetIdle time timeout).1 + (registry.forgetIdle time timeout).2.flowCount =
      registry.flowCount := by
  have each : ∀ queue : Queue, (queue.flows.idle time timeout).length +
      (queue.flows.forgetIdle time timeout).size = queue.flows.size := by
    intro queue
    have idle : (queue.flows.idle time timeout).length =
        (queue.flows.flows.entries.filter fun entry => entry.2.isIdle time timeout).length := by
      unfold FlowTable.idle FlowTable.entries IdMap.values
      rw [List.length_map, List.filter_map, List.length_map]
      rfl
    rw [idle]
    exact (List.length_eq_length_filter_add _).symm
  have left : (registry.forgetIdle time timeout).2.queues.total (·.flows.size) =
      registry.queues.total fun queue => (queue.flows.forgetIdle time timeout).size :=
    registry.queues.total_map _ _
  rw [own.flowCount_eq, (own.forgetIdle time timeout).flowCount_eq, left]
  show registry.queues.total (fun queue => (queue.flows.idle time timeout).length) + _ = _
  rw [IdMap.total_eq_sum, IdMap.total_eq_sum, IdMap.total_eq_sum, ← List.sum_map_add]
  simp only [each]

end Registry

end FlowSteer
