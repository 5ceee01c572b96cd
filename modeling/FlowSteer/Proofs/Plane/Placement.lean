import FlowSteer.Proofs.Registry.Bindings

/-!
# Placement

Three things are placed by formulas of their own: queues on memory nodes, processors on memory
nodes, and buffer pools on memory nodes. For settings that can be run with they fit together:

* `Topology.mem_cpusOf_uniform_iff`: a processor belongs to the node of its block;
* `Topology.cpusOf_uniform_ne_nil`: with as many processors as nodes, no node is without one;
* `Planner.queue_placements`, `Planner.places_of_mem_placements`: each queue is bound once, to a
  processor that exists, of its own node if nodes matter and the node has one.
-/

namespace FlowSteer

/-! ## Blocks -/

theorem blockOf_lt (index count nodes : Nat) : blockOf index count nodes < max nodes 1 := by
  unfold blockOf
  omega

/-- With as many things as nodes, every node has a block. -/
theorem exists_blockOf_eq {count nodes node : Nat} (enough : max nodes 1 ≤ count)
    (exists_node : node < max nodes 1) : ∃ index < count, blockOf index count nodes = node := by
  have size : 0 < count / max nodes 1 := Nat.div_pos enough (by omega)
  refine ⟨node * (count / max nodes 1), ?_, ?_⟩
  · calc node * (count / max nodes 1)
        < max nodes 1 * (count / max nodes 1) := Nat.mul_lt_mul_of_pos_right exists_node size
      _ ≤ count := Nat.mul_div_le count (max nodes 1)
  · unfold blockOf
    rw [Nat.max_eq_left size, Nat.mul_div_cancel node size]
    omega

/-! ## Processors of a node -/

namespace Topology

variable {nodes count : Nat} {node : NodeId} {cpu : CpuId}

theorem nodeCount_uniform (nodes count : Nat) : (uniform nodes count).nodeCount = max nodes 1 := by
  unfold nodeCount uniform
  rw [List.length_map, List.length_range]

theorem cpusOf_uniform (exists_node : node < max nodes 1) :
    (uniform nodes count).cpusOf node =
      ((List.range count).filter fun cpu => blockOf cpu count nodes == node).map
        (· % wordSize32) := by
  unfold cpusOf uniform
  rw [List.getD_eq_getElem?_getD, List.getElem?_map, List.getElem?_range exists_node]
  rfl

/-- A processor belongs to the node of its block. -/
theorem mem_cpusOf_uniform_iff (few : count < wordSize32) :
    cpu ∈ (uniform nodes count).cpusOf node ↔ cpu < count ∧ blockOf cpu count nodes = node := by
  by_cases exists_node : node < max nodes 1
  · rw [cpusOf_uniform exists_node, List.mem_map]
    simp only [List.mem_filter, List.mem_range, beq_iff_eq]
    constructor
    · rintro ⟨index, ⟨below, block⟩, rfl⟩
      rw [Nat.mod_eq_of_lt (Nat.lt_trans below few)]
      exact ⟨below, block⟩
    · rintro ⟨below, block⟩
      exact ⟨cpu, ⟨below, block⟩, Nat.mod_eq_of_lt (Nat.lt_trans below few)⟩
  · have none : (uniform nodes count).cpusOf node = [] := by
      unfold cpusOf uniform
      rw [List.getD_eq_getElem?_getD, List.getElem?_map, List.getElem?_eq_none]
      · rfl
      · rw [List.length_range]
        exact Nat.le_of_not_lt exists_node
    rw [none]
    constructor
    · intro member
      cases member
    · rintro ⟨-, rfl⟩
      exact absurd (blockOf_lt cpu count nodes) exists_node

/-- With as many processors as nodes, no node is without one. -/
theorem cpusOf_uniform_ne_nil (few : count < wordSize32) (enough : max nodes 1 ≤ count)
    (exists_node : node < max nodes 1) : (uniform nodes count).cpusOf node ≠ [] := by
  obtain ⟨cpu, below, block⟩ := exists_blockOf_eq enough exists_node
  exact List.ne_nil_of_mem ((mem_cpusOf_uniform_iff few).2 ⟨below, block⟩)

end Topology

/-! ## First bindings -/

namespace Planner

variable {planner : Planner} {binding : Binding}

/-- A processor that a queue may get at first: one of its node, or one of all processors in turn
when nodes do not matter or the node has none. -/
def Places (planner : Planner) (queue : Queue) (cpu : CpuId) : Prop :=
  planner.numaAware = true ∧ cpu ∈ planner.topology.cpusOf queue.node ∨
    (planner.numaAware = true → planner.topology.cpusOf queue.node = []) ∧
      ∃ turn, cpu = turn % planner.processors % wordSize32

/-- Every queue is bound, each once and in order. -/
theorem queue_placements (planner : Planner) (cursors : List Nat) (index : Nat)
    (entries : List (QueueId × Queue)) :
    (planner.placements cursors index entries).map (·.queue) = entries.map Prod.fst := by
  induction entries generalizing cursors index with
  | nil => rfl
  | cons entry rest ih =>
      obtain ⟨id, queue⟩ := entry
      unfold placements
      simp only []
      split
      · rw [List.map_cons, List.map_cons, ih]
      · rw [List.map_cons, List.map_cons, ih]

/-- Each first binding is one that the queue may get. -/
theorem places_of_mem_placements {cursors : List Nat} {index : Nat}
    {entries : List (QueueId × Queue)}
    (member : binding ∈ planner.placements cursors index entries) :
    ∃ queue, (binding.queue, queue) ∈ entries ∧ planner.Places queue binding.target := by
  induction entries generalizing cursors index with
  | nil => cases member
  | cons entry rest ih =>
      obtain ⟨id, queue⟩ := entry
      have later : ∀ {cursors index}, binding ∈ planner.placements cursors index rest →
          ∃ other, (binding.queue, other) ∈ (id, queue) :: rest ∧
            planner.Places other binding.target := by
        intro cursors index inRest
        obtain ⟨other, found, placed⟩ := ih inRest
        exact ⟨other, List.mem_cons_of_mem _ found, placed⟩
      unfold placements at member
      simp only [] at member
      split at member
      · rename_i cpu chosen
        rcases List.mem_cons.1 member with rfl | inRest
        · split at chosen
          · rename_i aware
            exact ⟨queue, List.mem_cons_self, .inl ⟨aware, List.mem_of_getElem? chosen⟩⟩
          · cases chosen
        · exact later inRest
      · rename_i chosen
        rcases List.mem_cons.1 member with rfl | inRest
        · refine ⟨queue, List.mem_cons_self, .inr ⟨?_, index, rfl⟩⟩
          intro aware
          rw [if_pos aware, List.getElem?_eq_none_iff] at chosen
          -- A cursor is taken modulo the number of processors, so only an empty node has none.
          by_contra some
          exact absurd chosen (Nat.not_le.2 (Nat.mod_lt _ (List.length_pos_iff.2 some)))
        · exact later inRest

/-- A queue that moves on under load gets a processor that exists. -/
theorem target_lt_of_mem_moves {registry : Registry} (some : 0 < planner.processors % wordSize32)
    (member : binding ∈ planner.moves registry) :
    binding.target < planner.processors % wordSize32 := by
  unfold moves at member
  simp only [] at member
  split at member
  · cases member
  · obtain ⟨entry, -, rfl⟩ := List.mem_map.1 member
    exact Nat.mod_lt _ some

end Planner

end FlowSteer
