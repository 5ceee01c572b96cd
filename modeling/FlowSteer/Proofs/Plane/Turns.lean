import Mathlib.Data.Int.CardIntervalMod
import FlowSteer.Proofs.Plane.Placement

/-!
# Processors in turn

First bindings give out processors in turn: those of a node to the queues of the node, or all of them
to all queues. For each node a cursor counts how many of its processors were given out.

1. `inTurn`: processors given out in turn, and how often each of them is (`count_inTurn`).
2. `Planner.placements_append`: queues are bound one after another, each as the cursors stand
   (`Planner.cursorsAfter`); a cursor stands at the number of queues of its node so far
   (`Planner.cursorsAfter_eq`).
3. `Registry.toList_bind`: bindings of all queues, one for each.
-/

namespace FlowSteer

/-! ## Turns -/

/-- Some processors given out one after another, from the first one again when all had a turn. -/
def inTurn (cpus : List CpuId) (number : Nat) : List (Option CpuId) :=
  (List.range number).map fun turn => cpus[turn % cpus.length]?

section InTurn

variable {cpus : List CpuId} {cpu first second : CpuId} {place : Nat}

theorem inTurn_succ (cpus : List CpuId) (number : Nat) :
    inTurn cpus (number + 1) = inTurn cpus number ++ [cpus[number % cpus.length]?] := by
  unfold inTurn
  rw [List.range_succ, List.map_append]
  rfl

/-- It is the turn of a processor each time that its place comes round. -/
theorem getElem?_eq_some_iff_modEq (distinct : cpus.Nodup) (found : cpus[place]? = some cpu)
    (turn : Nat) : cpus[turn % cpus.length]? = some cpu ↔ turn ≡ place [MOD cpus.length] := by
  obtain ⟨inside, held⟩ := List.getElem?_eq_some_iff.1 found
  have bound : turn % cpus.length < cpus.length := Nat.mod_lt _ (Nat.zero_lt_of_lt inside)
  rw [List.getElem?_eq_getElem bound, Option.some_inj, ← held, distinct.getElem_inj_iff, Nat.ModEq,
    Nat.mod_eq_of_lt inside]

/-- Of the turns that are left over after whole rounds the first processors get one more each. -/
theorem count_inTurn (distinct : cpus.Nodup) (found : cpus[place]? = some cpu) (number : Nat) :
    (inTurn cpus number).count (some cpu) =
      number / cpus.length + if place < number % cpus.length then 1 else 0 := by
  have inside : place < cpus.length := (List.getElem?_eq_some_iff.1 found).1
  have turns := Nat.count_modEq_card number (Nat.zero_lt_of_lt inside) place
  rw [Nat.mod_eq_of_lt inside] at turns
  rw [← turns]
  unfold inTurn Nat.count List.count
  rw [List.countP_map]
  apply List.countP_congr
  intro turn _
  simp only [Function.comp_apply, beq_iff_eq, decide_eq_true_eq]
  exact getElem?_eq_some_iff_modEq distinct found turn

/-- No processor is ahead of another one by more than one turn. -/
theorem count_inTurn_le (distinct : cpus.Nodup) (firstIn : first ∈ cpus) (secondIn : second ∈ cpus)
    (number : Nat) :
    (inTurn cpus number).count (some first) ≤ (inTurn cpus number).count (some second) + 1 := by
  obtain ⟨_, atFirst⟩ := List.mem_iff_getElem?.1 firstIn
  obtain ⟨_, atSecond⟩ := List.mem_iff_getElem?.1 secondIn
  rw [count_inTurn distinct atFirst, count_inTurn distinct atSecond]
  split <;> split <;> omega

end InTurn

/-! ## Cursors -/

namespace Planner

variable {planner : Planner} {cursors : List Nat} {index : Nat} {queue : Queue}

/-- Does a queue get a processor of its node. -/
def placesByNode (planner : Planner) (queue : Queue) : Bool :=
  planner.numaAware && !(planner.topology.cpusOf queue.node).isEmpty

theorem placesByNode_iff :
    planner.placesByNode queue = true ↔
      planner.numaAware = true ∧ planner.topology.cpusOf queue.node ≠ [] := by
  simp [placesByNode]

/-- The processor that a queue gets as the cursors stand. -/
def cpuFor (planner : Planner) (cursors : List Nat) (index : Nat) (queue : Queue) : CpuId :=
  let cpus := planner.topology.cpusOf queue.node
  if planner.placesByNode queue then (cpus[cursors.getD queue.node 0 % cpus.length]?).getD 0
  else index % planner.processors % wordSize32

/-- The cursors when a queue has got its processor. -/
def advance (planner : Planner) (cursors : List Nat) (queue : Queue) : List Nat :=
  if planner.placesByNode queue then cursors.modify queue.node (· + 1) else cursors

/-- A cursor for each node, at its first processor. -/
def freshCursors (planner : Planner) : List Nat := List.replicate planner.topology.nodeCount 0

/-- The cursors when some queues have got their processors. -/
def cursorsAfter (planner : Planner) (cursors : List Nat) (entries : List (QueueId × Queue)) :
    List Nat :=
  entries.foldl (fun cursors entry => planner.advance cursors entry.2) cursors

/-- The binding of one queue as the cursors stand. -/
def placement (planner : Planner) (cursors : List Nat) (index : Nat) (entry : QueueId × Queue) :
    Binding where
  queue := entry.1
  source := entry.2.cpu
  target := planner.cpuFor cursors index entry.2

/-- Where a node has processors the cursor finds one of them. -/
theorem exists_cpu_of_placesByNode (byNode : planner.placesByNode queue = true) (cursor : Nat) :
    let cpus := planner.topology.cpusOf queue.node
    ∃ cpu, cpus[cursor % cpus.length]? = some cpu := by
  intro cpus
  have some := List.length_pos_iff.2 (placesByNode_iff.1 byNode).2
  exact ⟨_, List.getElem?_eq_getElem (Nat.mod_lt _ some)⟩

theorem placements_cons (planner : Planner) (cursors : List Nat) (index : Nat)
    (entry : QueueId × Queue) (rest : List (QueueId × Queue)) :
    planner.placements cursors index (entry :: rest) =
      planner.placement cursors index entry ::
        planner.placements (planner.advance cursors entry.2) (index + 1) rest := by
  obtain ⟨id, queue⟩ := entry
  rw [placements]
  unfold placement cpuFor advance
  cases byNode : planner.placesByNode queue with
  | true =>
      obtain ⟨cpu, found⟩ := exists_cpu_of_placesByNode byNode (cursors.getD queue.node 0)
      simp only [(placesByNode_iff.1 byNode).1, if_true, found, Option.getD_some]
  | false =>
      have none : (if planner.numaAware = true then
          (planner.topology.cpusOf queue.node)[cursors.getD queue.node 0 %
            (planner.topology.cpusOf queue.node).length]? else none) = none := by
        split
        · rename_i aware
          have empty : planner.topology.cpusOf queue.node = [] := by
            by_contra some
            exact Bool.noConfusion (byNode.symm.trans (placesByNode_iff.2 ⟨aware, some⟩))
          rw [empty]
          rfl
        · rfl
      simp only [none, Bool.false_eq_true, if_false]

theorem placements_append (planner : Planner) (cursors : List Nat) (index : Nat)
    (first second : List (QueueId × Queue)) :
    planner.placements cursors index (first ++ second) =
      planner.placements cursors index first ++
        planner.placements (planner.cursorsAfter cursors first) (index + first.length) second := by
  induction first generalizing cursors index with
  | nil => rfl
  | cons entry rest ih =>
      rw [List.cons_append, placements_cons, placements_cons, ih, List.cons_append,
        List.length_cons, Nat.add_right_comm]
      rfl

theorem getElem?_advance (planner : Planner) (cursors : List Nat) (queue : Queue) (node : NodeId) :
    (planner.advance cursors queue)[node]? = cursors[node]?.map
      (· + if planner.placesByNode queue && queue.node == node then 1 else 0) := by
  unfold advance
  cases planner.placesByNode queue with
  | true =>
      rw [if_pos rfl, List.getElem?_modify]
      by_cases same : queue.node = node
      · simp [same]
      · simp [same]
  | false => simp

/-- A cursor counts the queues that got a processor of its node. -/
theorem getElem?_cursorsAfter (planner : Planner) (cursors : List Nat)
    (entries : List (QueueId × Queue)) (node : NodeId) :
    (planner.cursorsAfter cursors entries)[node]? = cursors[node]?.map
      (· + entries.countP fun entry => planner.placesByNode entry.2 && entry.2.node == node) := by
  induction entries generalizing cursors with
  | nil => exact Option.map_id'.symm
  | cons entry rest ih =>
      have advanced : planner.cursorsAfter cursors (entry :: rest) =
          planner.cursorsAfter (planner.advance cursors entry.2) rest := rfl
      rw [advanced, ih, getElem?_advance, Option.map_map]
      congr 1
      funext cursor
      rw [Function.comp_apply, List.countP_cons, Nat.add_assoc, Nat.add_comm (ite ..)]

theorem lt_nodeCount {topology : Topology} {node : NodeId} (some : topology.cpusOf node ≠ []) :
    node < topology.nodeCount := by
  by_contra outside
  apply some
  unfold Topology.cpusOf
  rw [List.getD_eq_getElem?_getD, List.getElem?_eq_none (Nat.not_lt.1 outside)]
  rfl

/-- Where nodes matter there is a cursor for each node with processors, and it counts the queues of
the node. -/
theorem cursorsAfter_eq {node : NodeId} (aware : planner.numaAware = true)
    (some : planner.topology.cpusOf node ≠ []) (entries : List (QueueId × Queue)) :
    (planner.cursorsAfter planner.freshCursors entries)[node]? =
      .some (entries.countP (·.2.node == node)) := by
  have fresh : planner.freshCursors[node]? = .some 0 :=
    List.getElem?_replicate_of_lt (lt_nodeCount some)
  rw [getElem?_cursorsAfter, fresh, Option.map_some, Nat.zero_add]
  congr 1
  apply List.countP_congr
  intro entry _
  rw [Bool.and_eq_true, and_iff_right_iff_imp, beq_iff_eq]
  intro same
  exact placesByNode_iff.2 ⟨aware, same ▸ some⟩

/-! ## Bindings of all queues -/

/-- Queues bound as some bindings say, one binding for each. -/
def bound (entries : List (QueueId × Queue)) (bindings : List Binding) : List (QueueId × Queue) :=
  List.zipWith (fun entry binding => (entry.1, { entry.2 with cpu := some binding.target }))
    entries bindings

theorem length_placements (planner : Planner) (cursors : List Nat) (index : Nat)
    (entries : List (QueueId × Queue)) :
    (planner.placements cursors index entries).length = entries.length := by
  have lengths := congrArg List.length (planner.queue_placements cursors index entries)
  rwa [List.length_map, List.length_map] at lengths

/-- Each queue is bound as the queues before it left the cursors. -/
theorem getElem?_placements {entries : List (QueueId × Queue)} {place : Nat}
    {entry : QueueId × Queue} (found : entries[place]? = some entry) (cursors : List Nat)
    (index : Nat) :
    (planner.placements cursors index entries)[place]? =
      some (planner.placement (planner.cursorsAfter cursors (entries.take place)) (index + place)
        entry) := by
  obtain ⟨inside, rfl⟩ := List.getElem?_eq_some_iff.1 found
  have before : (entries.take place).length = place := List.length_take_of_le (Nat.le_of_lt inside)
  have split := placements_append planner cursors index (entries.take place) (entries.drop place)
  rw [List.take_append_drop, before, List.drop_eq_getElem_cons inside, placements_cons] at split
  rw [split, List.getElem?_append_right (by rw [length_placements, before]), length_placements,
    before, Nat.sub_self]
  rfl

/-- The queues after the first bindings of some queues. -/
def firstBound (planner : Planner) (entries : List (QueueId × Queue)) : List (QueueId × Queue) :=
  bound entries (planner.placements planner.freshCursors 0 entries)

/-- The last queue is bound as the queues before it left the cursors. -/
theorem firstBound_concat (planner : Planner) (entries : List (QueueId × Queue))
    (entry : QueueId × Queue) :
    planner.firstBound (entries ++ [entry]) = planner.firstBound entries ++ [(entry.1,
      { entry.2 with
        cpu := planner.cpuFor (planner.cursorsAfter planner.freshCursors entries)
          entries.length entry.2 })] := by
  unfold firstBound bound
  rw [placements_append, List.zipWith_append (length_placements ..).symm, Nat.zero_add,
    placements_cons]
  rfl

/-- As many processors of its node were given out before as there are queues of the node. -/
theorem cpuFor_of_placesByNode (byNode : planner.placesByNode queue = true)
    (entries : List (QueueId × Queue)) (index : Nat) :
    let cpus := planner.topology.cpusOf queue.node
    some (planner.cpuFor (planner.cursorsAfter planner.freshCursors entries) index queue) =
      cpus[entries.countP (·.2.node == queue.node) % cpus.length]? := by
  intro cpus
  obtain ⟨aware, some⟩ := placesByNode_iff.1 byNode
  obtain ⟨cpu, found⟩ :=
    exists_cpu_of_placesByNode byNode (entries.countP (·.2.node == queue.node))
  unfold cpuFor
  rw [if_pos byNode, List.getD_eq_getElem?_getD, cursorsAfter_eq aware some, Option.getD_some, found]
  rfl

/-- The other queues count all processors round. -/
theorem cpuFor_of_not_placesByNode (exist : 0 < planner.topology.processorCount)
    (few : planner.topology.processorCount < wordSize32)
    (byCount : planner.placesByNode queue = false) (cursors : List Nat) (index : Nat) :
    planner.cpuFor cursors index queue = index % planner.topology.processorCount := by
  have below : index % planner.topology.processorCount < wordSize32 :=
    Nat.lt_trans (Nat.mod_lt _ exist) few
  unfold cpuFor processors
  rw [byCount, if_neg Bool.false_ne_true, Nat.max_eq_left exist, Nat.mod_eq_of_lt below]

/-- The queues of a node with processors get these in turn. -/
theorem cpus_of_node {node : NodeId} (aware : planner.numaAware = true)
    (some : planner.topology.cpusOf node ≠ []) (entries : List (QueueId × Queue)) :
    ((planner.firstBound entries).filter (·.2.node == node)).map (·.2.cpu) =
      inTurn (planner.topology.cpusOf node) (entries.countP (·.2.node == node)) := by
  induction entries using List.reverseRecOn with
  | nil => rfl
  | append_singleton entries entry ih =>
      rw [firstBound_concat, List.filter_append, List.map_append, ih, List.countP_append]
      by_cases same : entry.2.node = node
      · subst same
        have byNode : planner.placesByNode entry.2 = true := placesByNode_iff.2 ⟨aware, some⟩
        have one : [entry].countP (·.2.node == entry.2.node) = 1 := by simp
        rw [one, inTurn_succ, ← cpuFor_of_placesByNode byNode entries entries.length]
        simp
      · simp [same]

/-- Where nodes do not matter all queues get all processors in turn. -/
theorem cpus_of_all (exist : 0 < planner.topology.processorCount)
    (few : planner.topology.processorCount < wordSize32) (unaware : planner.numaAware = false)
    (entries : List (QueueId × Queue)) :
    (planner.firstBound entries).map (·.2.cpu) =
      inTurn (List.range planner.topology.processorCount) entries.length := by
  induction entries using List.reverseRecOn with
  | nil => rfl
  | append_singleton entries entry ih =>
      have byCount : planner.placesByNode entry.2 = false := by simp [placesByNode, unaware]
      have below : entries.length % planner.topology.processorCount <
          planner.topology.processorCount := Nat.mod_lt _ exist
      rw [firstBound_concat, List.map_append, ih, List.length_append, List.length_singleton,
        inTurn_succ, cpuFor_of_not_placesByNode exist few byCount, List.length_range,
        List.getElem?_range below]
      rfl

end Planner

namespace Registry

/-- Bindings of all queues, one for each and in order. -/
theorem toList_bind {registry : Registry} {bindings : List Binding}
    (named : bindings.map (·.queue) = registry.queueIds) :
    (registry.bind bindings).queues.toList = Planner.bound registry.queues.toList bindings := by
  have distinct : (bindings.map (·.queue)).Nodup := named ▸ registry.queues.ids_nodup
  apply List.ext_getElem?
  intro place
  have namedHere : bindings[place]?.map (·.queue) = registry.queues.toList[place]?.map Prod.fst := by
    rw [← List.getElem?_map, ← List.getElem?_map, named]
    rfl
  have sameHere : (registry.bind bindings).queues.toList[place]?.map Prod.fst =
      registry.queues.toList[place]?.map Prod.fst := by
    rw [← List.getElem?_map, ← List.getElem?_map]
    exact congrArg (·[place]?) (registry.queueIds_bind bindings)
  rw [Planner.bound, List.getElem?_zipWith]
  cases before : registry.queues.toList[place]? with
  | none =>
      rw [before, Option.map_none, Option.map_eq_none_iff] at sameHere
      exact sameHere
  | some entry =>
      obtain ⟨id, queue⟩ := entry
      rw [before] at namedHere sameHere
      obtain ⟨binding, made, isNamed⟩ := Option.map_eq_some_iff.1 namedHere
      obtain ⟨⟨_, after⟩, bound, rfl⟩ := Option.map_eq_some_iff.1 sameHere
      have found : registry.queues.get? binding.queue = some queue :=
        IdMap.get?_eq_some_iff.2 (isNamed ▸ List.mem_of_getElem? before)
      have foundAfter : (registry.bind bindings).queues.get? binding.queue = some after :=
        IdMap.get?_eq_some_iff.2 (isNamed ▸ List.mem_of_getElem? bound)
      rw [get?_queues_bind_of_mem distinct (List.mem_of_getElem? made), found] at foundAfter
      rw [made, bound]
      cases foundAfter
      rfl

end Registry

end FlowSteer
