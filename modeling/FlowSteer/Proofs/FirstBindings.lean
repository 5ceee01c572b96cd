import FlowSteer.Proofs.Plane.Turns

/-!
# First bindings

At bring-up every queue is bound to a processor: to one of its own node where nodes matter and the
node has any, else to one of all processors.

1. `Planner.get?_queues_bindAll`: each queue has its processor as the queues before it left the
   cursors.
2. `Planner.loadOf_node_le`, `Planner.loadOf_all_le`: processors that take turns are loaded evenly.
3. `Planner.distributes`: what the first bindings of any registry do.
-/

namespace FlowSteer

/-! ## Loads -/

namespace Registry

/-- Number of queues of a kind that are bound to a processor. -/
def loadOf (registry : Registry) (kind : Queue → Bool) (cpu : CpuId) : Nat :=
  registry.queues.values.countP fun queue => kind queue && queue.cpu == some cpu

theorem loadOf_eq_count (registry : Registry) (kind : Queue → Bool) (cpu : CpuId) :
    registry.loadOf kind cpu =
      ((registry.queues.toList.filter (kind ·.2)).map (·.2.cpu)).count (some cpu) := by
  unfold loadOf IdMap.values IdMap.toList List.count
  rw [List.countP_map, List.countP_map, List.countP_filter]
  apply List.countP_congr
  intro entry _
  simp only [Function.comp_apply, Bool.and_eq_true, and_comm]

end Registry

namespace Topology

/-- A node has each of its processors once. -/
theorem nodup_cpusOf_uniform {count : Nat} (few : count < wordSize32) (nodes : Nat)
    (node : NodeId) : ((uniform nodes count).cpusOf node).Nodup := by
  by_cases some : (uniform nodes count).cpusOf node = []
  · rw [some]
    exact .nil
  · have exists_node : node < max nodes 1 := by
      have inside := Planner.lt_nodeCount some
      rwa [nodeCount, uniform, List.length_map, List.length_range] at inside
    rw [cpusOf_uniform exists_node]
    apply (List.nodup_range.filter _).map_on
    intro first firstIn second secondIn same
    have firstBelow := List.mem_range.1 (List.mem_filter.1 firstIn).1
    have secondBelow := List.mem_range.1 (List.mem_filter.1 secondIn).1
    rwa [Nat.mod_eq_of_lt (Nat.lt_trans firstBelow few),
      Nat.mod_eq_of_lt (Nat.lt_trans secondBelow few)] at same

end Topology

namespace Planner

variable {planner : Planner} {registry : Registry} {nodes count place : Nat} {node : NodeId}
  {id : QueueId} {queue : Queue} {first second : CpuId}

/-! ## Each queue -/

/-- The cursors when it is the turn of the queue at a place. -/
def cursorsAt (planner : Planner) (registry : Registry) (place : Nat) : List Nat :=
  planner.cursorsAfter planner.freshCursors (registry.queues.toList.take place)

theorem queue_bindAll (planner : Planner) (registry : Registry) :
    (planner.bindAll registry).1.map (·.queue) = registry.queueIds :=
  planner.queue_placements _ _ _

/-- The binding of a queue. -/
theorem getElem?_bindAll (planner : Planner)
    (found : registry.queues.toList[place]? = some (id, queue)) :
    (planner.bindAll registry).1[place]? =
      some (planner.placement (planner.cursorsAt registry place) place (id, queue)) := by
  have made := planner.getElem?_placements found planner.freshCursors 0
  rwa [Nat.zero_add] at made

/-- Each binding is that of some queue. -/
theorem exists_of_mem_bindAll {binding : Binding} (member : binding ∈ (planner.bindAll registry).1) :
    ∃ place queue, registry.queues.toList[place]? = some (binding.queue, queue) ∧
      binding = planner.placement (planner.cursorsAt registry place) place
        (binding.queue, queue) := by
  obtain ⟨place, made⟩ := List.mem_iff_getElem?.1 member
  have named : (registry.queues.toList[place]?).map Prod.fst = some binding.queue := by
    rw [← List.getElem?_map]
    show registry.queueIds[place]? = _
    rw [← planner.queue_bindAll registry, List.getElem?_map, made, Option.map_some]
  obtain ⟨⟨_, queue⟩, found, rfl⟩ := Option.map_eq_some_iff.1 named
  exact ⟨place, queue, found, Option.some_inj.1 (made.symm.trans (planner.getElem?_bindAll found))⟩

/-- A queue after the first bindings has the processor of its binding, and all else as before. -/
theorem get?_queues_bindAll (planner : Planner)
    (found : registry.queues.toList[place]? = some (id, queue)) :
    (planner.bindAll registry).2.queues.get? id =
      some { queue with cpu := planner.cpuFor (planner.cursorsAt registry place) place queue } := by
  have distinct : ((planner.bindAll registry).1.map (·.queue)).Nodup :=
    planner.queue_bindAll registry ▸ registry.queues.ids_nodup
  have present : registry.queues.get? id = some queue :=
    IdMap.get?_eq_some_iff.2 (List.mem_of_getElem? found)
  have member : planner.placement (planner.cursorsAt registry place) place (id, queue) ∈
      (planner.bindAll registry).1 := List.mem_of_getElem? (planner.getElem?_bindAll found)
  have after : (planner.bindAll registry).2.queues.get? id = (registry.queues.get? id).map _ :=
    Registry.get?_queues_bind_of_mem distinct member
  rw [after, present]
  rfl

theorem cpu?_bindAll (planner : Planner)
    (found : registry.queues.toList[place]? = some (id, queue)) :
    (planner.bindAll registry).2.cpu? id =
      some (planner.cpuFor (planner.cursorsAt registry place) place queue) :=
  Registry.cpu?_of_get? (planner.get?_queues_bindAll found)

/-- A queue whose node has processors gets one of them. -/
theorem cpuFor_cursorsAt_mem (byNode : planner.placesByNode queue = true) (registry : Registry)
    (place : Nat) :
    planner.cpuFor (planner.cursorsAt registry place) place queue ∈
      planner.topology.cpusOf queue.node :=
  List.mem_of_getElem? (cpuFor_of_placesByNode byNode _ place).symm

/-! ## All queues -/

theorem toList_bindAll (planner : Planner) (registry : Registry) :
    (planner.bindAll registry).2.queues.toList = planner.firstBound registry.queues.toList :=
  Registry.toList_bind (planner.queue_bindAll registry)

/-- The processors of a node take turns with the queues of the node. -/
theorem loadOf_node_le (distinct : (planner.topology.cpusOf node).Nodup)
    (aware : planner.numaAware = true) (firstIn : first ∈ planner.topology.cpusOf node)
    (secondIn : second ∈ planner.topology.cpusOf node) (registry : Registry) :
    (planner.bindAll registry).2.loadOf (·.node == node) first ≤
      (planner.bindAll registry).2.loadOf (·.node == node) second + 1 := by
  have some : planner.topology.cpusOf node ≠ [] := List.ne_nil_of_mem firstIn
  rw [Registry.loadOf_eq_count, Registry.loadOf_eq_count, toList_bindAll, cpus_of_node aware some]
  exact count_inTurn_le distinct firstIn secondIn _

/-- Where nodes do not matter all processors take turns with all queues. -/
theorem loadOf_all_le (few : planner.topology.processorCount < wordSize32)
    (unaware : planner.numaAware = false) (firstIn : first < planner.topology.processorCount)
    (secondIn : second < planner.topology.processorCount) (registry : Registry) :
    (planner.bindAll registry).2.loadOf (fun _ => true) first ≤
      (planner.bindAll registry).2.loadOf (fun _ => true) second + 1 := by
  have exist : 0 < planner.topology.processorCount := Nat.zero_lt_of_lt firstIn
  rw [Registry.loadOf_eq_count, Registry.loadOf_eq_count, toList_bindAll, List.filter_true,
    cpus_of_all exist few unaware]
  exact count_inTurn_le List.nodup_range (List.mem_range.2 firstIn) (List.mem_range.2 secondIn) _

/-! ## The first bindings -/

/-- What the first bindings do: the bindings that are reported, and the registry that they leave. -/
structure Distributes (planner : Planner) (before : Registry) (bindings : List Binding)
    (after : Registry) : Prop where
  ascending : (bindings.map (·.queue)).Pairwise (· < ·)
  once : bindings.map (·.queue) = before.queueIds
  same : after.queueIds = before.queueIds
  bound : ∀ binding ∈ bindings, ∃ queue, before.queues.get? binding.queue = some queue ∧
    binding.source = queue.cpu ∧
    after.queues.get? binding.queue = some { queue with cpu := some binding.target }
  others : after = { before with queues := after.queues }
  /-- Queues are bound one after another; each finds the cursors as the queues before it left
  them. -/
  reaches : ∀ place ≤ before.size,
    bindings = planner.placements planner.freshCursors 0 (before.queues.toList.take place) ++
      planner.placements (planner.cursorsAt before place) place (before.queues.toList.drop place)
  /-- The cursor that a queue looks for is there, and counts the queues of its node before it. -/
  cursor : planner.numaAware = true → ∀ place id queue,
    before.queues.toList[place]? = some (id, queue) → planner.topology.cpusOf queue.node ≠ [] →
      (planner.cursorsAt before place)[queue.node]? =
        some ((before.queues.toList.take place).countP (·.2.node == queue.node))
  of_node : planner.numaAware = true → ∀ id queue, before.queues.get? id = some queue →
    planner.topology.cpusOf queue.node ≠ [] →
      ∃ cpu ∈ planner.topology.cpusOf queue.node, after.cpu? id = some cpu
  even_on_node : planner.numaAware = true → ∀ node, ∀ first ∈ planner.topology.cpusOf node,
    ∀ second ∈ planner.topology.cpusOf node,
      after.loadOf (·.node == node) first ≤ after.loadOf (·.node == node) second + 1
  /-- Without processors on its node, or where nodes do not matter, a queue counts all processors
  round. -/
  round : ∀ place id queue, before.queues.toList[place]? = some (id, queue) →
    (planner.numaAware = true → planner.topology.cpusOf queue.node = []) →
      after.cpu? id = some (place % planner.topology.processorCount)
  even : planner.numaAware = false → ∀ first < planner.topology.processorCount,
    ∀ second < planner.topology.processorCount,
      after.loadOf (fun _ => true) first ≤ after.loadOf (fun _ => true) second + 1

/-- The first bindings of any registry, over processors that are spread over any number of nodes. -/
theorem distributes (uniform : planner.topology = .uniform nodes count) (exist : 0 < count)
    (few : count < wordSize32) (registry : Registry) :
    planner.Distributes registry (planner.bindAll registry).1 (planner.bindAll registry).2 := by
  have counted : planner.topology.processorCount = count := by rw [uniform]; rfl
  constructor
  case ascending => exact planner.queue_bindAll registry ▸ registry.queues.ids_ascending
  case once => exact planner.queue_bindAll registry
  case same => exact registry.queueIds_bind _
  case bound =>
    intro binding member
    obtain ⟨place, queue, found, same⟩ := exists_of_mem_bindAll member
    exact ⟨queue, IdMap.get?_eq_some_iff.2 (List.mem_of_getElem? found), same ▸ rfl,
      same ▸ planner.get?_queues_bindAll found⟩
  case others => rfl
  case reaches =>
    intro place inside
    have before : (registry.queues.toList.take place).length = place :=
      List.length_take_of_le inside
    have split := planner.placements_append planner.freshCursors 0
      (registry.queues.toList.take place) (registry.queues.toList.drop place)
    rwa [List.take_append_drop, before, Nat.zero_add] at split
  case cursor =>
    intro aware place id queue _ some
    exact cursorsAfter_eq aware some _
  case of_node =>
    intro aware id queue present some
    obtain ⟨place, found⟩ := List.mem_iff_getElem?.1 (IdMap.get?_eq_some_iff.1 present)
    have byNode : planner.placesByNode queue = true := placesByNode_iff.2 ⟨aware, some⟩
    exact ⟨_, cpuFor_cursorsAt_mem byNode registry place, planner.cpu?_bindAll found⟩
  case even_on_node =>
    intro aware node first firstIn second secondIn
    have distinct : (planner.topology.cpusOf node).Nodup :=
      uniform ▸ Topology.nodup_cpusOf_uniform few nodes node
    exact loadOf_node_le distinct aware firstIn secondIn registry
  case round =>
    intro place id queue found none
    have byCount : planner.placesByNode queue = false := by
      rw [← Bool.not_eq_true, placesByNode_iff]
      rintro ⟨aware, some⟩
      exact some (none aware)
    rw [planner.cpu?_bindAll found,
      cpuFor_of_not_placesByNode (counted ▸ exist) (counted ▸ few) byCount]
  case even =>
    intro unaware first firstIn second secondIn
    exact loadOf_all_le (counted ▸ few) unaware firstIn secondIn registry

/-- Two nodes have one processor and two. Three queues share the two, one queue has the one, and a
queue of a node that does not exist gets the third of all processors. -/
theorem distributes_of_uneven_nodes :
    let planner : Planner := { topology := .uniform 2 3, numaAware := true }
    let registry := [RegistryOp.register 4 1, .register 7 1, .register 9 5, .register 12 1,
      .register 20 0].foldl (RegistryOp.apply 0) (.empty 32 8)
    planner.Distributes registry
      [{ queue := 4, source := none, target := 1 }, { queue := 7, source := none, target := 2 },
        { queue := 9, source := none, target := 2 }, { queue := 12, source := none, target := 1 },
        { queue := 20, source := none, target := 0 }]
      (planner.bindAll registry).2 := by
  intro planner registry
  have bindings : (planner.bindAll registry).1 =
      [{ queue := 4, source := none, target := 1 }, { queue := 7, source := none, target := 2 },
        { queue := 9, source := none, target := 2 }, { queue := 12, source := none, target := 1 },
        { queue := 20, source := none, target := 0 }] := by decide
  have made : planner.Distributes registry (planner.bindAll registry).1
      (planner.bindAll registry).2 := distributes rfl (by decide : 0 < 3) (by decide) registry
  rwa [bindings] at made

/-- Where nodes do not matter the processors of both nodes take turns. -/
example :
    let planner : Planner := { topology := .uniform 2 4, numaAware := false }
    let registry := [RegistryOp.register 0 0, .register 1 0, .register 2 0, .register 3 1,
      .register 4 1, .register 5 1].foldl (RegistryOp.apply 0) (.empty 8 8)
    (planner.bindAll registry).1.map (·.target) = [0, 1, 2, 3, 0, 1] := by decide

end Planner

end FlowSteer
