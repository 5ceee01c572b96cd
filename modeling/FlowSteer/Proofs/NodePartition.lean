import Mathlib.Algebra.BigOperators.Group.List.Basic
import Mathlib.Data.List.Sort
import FlowSteer.Proofs.Plane.Placement

/-!
# The partition of processors into nodes

Memory nodes take contiguous blocks of processors and of queues, each by a formula of its own.

1. `blockOf_eq_iff`: the block of a node lies between two starts (`blockStart`).
2. `Topology.nodes_uniform`: so the processors of a node are a row of consecutive numbers. Dealing
   the processors out one by one leads to the same rows (`Topology.nodes_uniform_eq_deal`).
3. `Topology.partitions`: the rows joined are all processors, their sizes are even up to the last
   node, and a queue is placed as a processor of the same number is.
-/

namespace FlowSteer

/-! ## Starts of blocks -/

/-- First index of the block of a node; behind the last node, the end of all blocks. -/
def blockStart (count nodes node : Nat) : Nat :=
  if node < max nodes 1 then min (node * max (count / max nodes 1) 1) count else count

section Blocks

variable {index count nodes node : Nat}

theorem blockStart_zero (count nodes : Nat) : blockStart count nodes 0 = 0 := by
  unfold blockStart
  rw [if_pos (by omega), Nat.zero_mul, Nat.zero_min]

theorem blockStart_end (count nodes : Nat) : blockStart count nodes (max nodes 1) = count :=
  if_neg (Nat.lt_irrefl _)

theorem blockStart_le (count nodes node : Nat) : blockStart count nodes node ≤ count := by
  unfold blockStart
  split
  · exact Nat.min_le_right _ _
  · exact Nat.le_refl _

theorem blockStart_le_succ (count nodes node : Nat) :
    blockStart count nodes node ≤ blockStart count nodes (node + 1) := by
  by_cases inner : node + 1 < max nodes 1
  · unfold blockStart
    rw [if_pos inner, if_pos (Nat.lt_of_succ_lt inner), Nat.succ_mul]
    omega
  · rw [show blockStart count nodes (node + 1) = count from if_neg inner]
    exact blockStart_le count nodes node

/-- With as many things as nodes, no block is cut short. -/
theorem blockStart_of_enough (enough : max nodes 1 ≤ count) (exists_node : node < max nodes 1) :
    blockStart count nodes node = node * (count / max nodes 1) := by
  have size : 0 < count / max nodes 1 := Nat.div_pos enough (by omega)
  unfold blockStart
  rw [if_pos exists_node, Nat.max_eq_left size]
  apply Nat.min_eq_left
  calc node * (count / max nodes 1)
      ≤ max nodes 1 * (count / max nodes 1) :=
        Nat.mul_le_mul_right _ (Nat.le_of_lt exists_node)
    _ ≤ count := Nat.mul_div_le count (max nodes 1)

/-- The block of a node lies between its start and the start of the next. -/
theorem blockOf_eq_iff (exists_node : node < max nodes 1) (below : index < count) :
    blockOf index count nodes = node ↔
      blockStart count nodes node ≤ index ∧ index < blockStart count nodes (node + 1) := by
  unfold blockOf blockStart
  rw [if_pos exists_node]
  generalize nonzero : max (count / max nodes 1) 1 = size
  have positive : 0 < size := by omega
  have reached : node ≤ index / size ↔ node * size ≤ index := Nat.le_div_iff_mul_le positive
  have passed : index / size < node + 1 ↔ index < (node + 1) * size :=
    Nat.div_lt_iff_lt_mul positive
  -- The last node also takes all that comes behind its block.
  by_cases inner : node + 1 < max nodes 1
  · rw [if_pos inner]
    omega
  · rw [if_neg inner]
    omega

theorem blockOf_le_blockOf {first second : Nat} (ordered : first ≤ second) (count nodes : Nat) :
    blockOf first count nodes ≤ blockOf second count nodes := by
  have placed := Nat.div_le_div_right (c := max (count / max nodes 1) 1) ordered
  unfold blockOf
  omega

/-- Rows of numbers, each from one start to the next, joined. -/
theorem flatMap_rows {start : Nat → Nat} (ordered : ∀ row, start row ≤ start (row + 1))
    (rows : Nat) :
    (List.range rows).flatMap (fun row => List.range' (start row) (start (row + 1) - start row)) =
      List.range' (start 0) (start rows - start 0) := by
  induction rows with
  | zero => rw [Nat.sub_self]; rfl
  | succ rows ih =>
      have before : start 0 ≤ start rows := monotone_nat_of_le_succ ordered (Nat.zero_le rows)
      have step := ordered rows
      rw [List.range_succ, List.flatMap_append, ih, List.flatMap_singleton]
      have joined := List.range'_append_1 (s := start 0) (m := start rows - start 0)
        (n := start (rows + 1) - start rows)
      rw [Nat.add_sub_cancel' before] at joined
      rw [joined]
      congr 1
      omega

end Blocks

/-! ## Processors of the nodes -/

namespace Topology

variable {nodes count node : Nat}

/-- Processors put one after another at the end of the group of their node. -/
def deal (nodes count : Nat) : List (List CpuId) :=
  (List.range count).foldl
    (fun groups cpu => groups.modify (blockOf cpu count nodes) (· ++ [cpu % wordSize32]))
    (List.replicate (max nodes 1) [])

/-- Dealing things out adds to each group the things of the group, in order. -/
theorem foldl_modify_map_range {place : Nat → Nat} {name : Nat → CpuId} (groups : Nat)
    (things : List Nat) (held : Nat → List CpuId) :
    things.foldl (fun groups thing => groups.modify (place thing) (· ++ [name thing]))
        ((List.range groups).map held) =
      (List.range groups).map fun group =>
        held group ++ (things.filter (place · == group)).map name := by
  induction things generalizing held with
  | nil => simp
  | cons thing rest ih =>
      have dealt : ((List.range groups).map held).modify (place thing) (· ++ [name thing]) =
          (List.range groups).map fun group =>
            held group ++ ([thing].filter (place · == group)).map name := by
        apply List.ext_getElem?
        intro group
        rw [List.getElem?_modify, List.getElem?_map, List.getElem?_map]
        by_cases exists_group : group < groups
        · rw [List.getElem?_range exists_group]
          by_cases here : place thing = group <;> simp [here]
        · rw [List.getElem?_eq_none (by simpa using exists_group)]
          rfl
      rw [List.foldl_cons, dealt, ih]
      apply List.map_congr_left
      intro group _
      rw [List.append_assoc, ← List.map_append, ← List.filter_append, List.singleton_append]

theorem nodes_uniform_eq_deal (nodes count : Nat) :
    (uniform nodes count).nodes = deal nodes count := by
  have empty : List.replicate (max nodes 1) ([] : List CpuId) =
      (List.range (max nodes 1)).map fun _ => [] := by
    rw [List.map_const', List.length_range]
  unfold deal
  rw [empty, foldl_modify_map_range]
  rfl

/-- The processors of a node are a row of consecutive numbers. -/
theorem nodes_uniform (few : count < wordSize32) :
    (uniform nodes count).nodes = (List.range (max nodes 1)).map fun node =>
      List.range' (blockStart count nodes node)
        (blockStart count nodes (node + 1) - blockStart count nodes node) := by
  apply List.map_congr_left
  intro node inNodes
  have exists_node : node < max nodes 1 := List.mem_range.1 inNodes
  have unchanged : ∀ cpu ∈ (List.range count).filter (blockOf · count nodes == node),
      cpu % wordSize32 = cpu := by
    intro cpu member
    exact Nat.mod_eq_of_lt
      (Nat.lt_trans (List.mem_range.1 (List.mem_of_mem_filter member)) few)
  rw [List.map_congr_left unchanged, List.map_id']
  -- Both sides are ascending, so it is enough that they have the same members.
  apply List.Pairwise.eq_of_mem_iff (List.pairwise_lt_range.filter _) List.pairwise_lt_range'
  intro cpu
  have starts := blockStart_le_succ count nodes node
  have ends := blockStart_le count nodes (node + 1)
  rw [List.mem_filter, List.mem_range, List.mem_range'_1, beq_iff_eq, Nat.add_sub_cancel' starts]
  constructor
  · rintro ⟨below, block⟩
    exact (blockOf_eq_iff exists_node below).1 block
  · rintro ⟨reached, passed⟩
    have below : cpu < count := Nat.lt_of_lt_of_le passed ends
    exact ⟨below, (blockOf_eq_iff exists_node below).2 ⟨reached, passed⟩⟩

/-- The nodes joined are all processors in order. -/
theorem flatten_nodes_uniform (nodes : Nat) (few : count < wordSize32) :
    (uniform nodes count).nodes.flatten = List.range count := by
  rw [nodes_uniform few, ← List.flatMap_def, flatMap_rows (blockStart_le_succ count nodes),
    blockStart_zero, blockStart_end, Nat.sub_zero, List.range_eq_range']

/-- With as many processors as nodes, all nodes but the last are of one size. -/
theorem sizes_nodes_uniform (few : count < wordSize32) (enough : max nodes 1 ≤ count) :
    (uniform nodes count).nodes.map List.length =
      List.replicate (max nodes 1 - 1) (count / max nodes 1) ++
        [count - (max nodes 1 - 1) * (count / max nodes 1)] := by
  obtain ⟨inner, same⟩ : ∃ inner, max nodes 1 = inner + 1 :=
    ⟨max nodes 1 - 1, by omega⟩
  rw [nodes_uniform few, List.map_map, same, List.range_succ, List.map_append, List.map_singleton,
    Nat.add_sub_cancel]
  congr 1
  · rw [List.eq_replicate_iff]
    refine ⟨by rw [List.length_map, List.length_range], ?_⟩
    intro size member
    obtain ⟨node, inNodes, rfl⟩ := List.mem_map.1 member
    have isInner : node < inner := List.mem_range.1 inNodes
    rw [Function.comp_apply, List.length_range', blockStart_of_enough enough (by omega),
      blockStart_of_enough enough (by omega), ← Nat.sub_mul, Nat.add_sub_cancel_left, Nat.one_mul,
      same]
  · rw [Function.comp_apply, List.length_range', ← same, blockStart_end,
      blockStart_of_enough enough (by omega)]

/-- Some node is without a processor exactly when there are fewer processors than nodes. -/
theorem nodes_uniform_ne_nil_iff (few : count < wordSize32) :
    (∀ cpus ∈ (uniform nodes count).nodes, cpus ≠ []) ↔ max nodes 1 ≤ count := by
  have number : (uniform nodes count).nodes.length = max nodes 1 := nodeCount_uniform nodes count
  constructor
  · intro inhabited
    have sizes : ∀ size ∈ (uniform nodes count).nodes.map List.length, 1 ≤ size := by
      intro size member
      obtain ⟨cpus, inNodes, rfl⟩ := List.mem_map.1 member
      exact List.length_pos_iff.2 (inhabited cpus inNodes)
    have total := List.length_le_sum_of_one_le _ sizes
    rwa [List.length_map, number, ← List.length_flatten, flatten_nodes_uniform nodes few,
      List.length_range] at total
  · intro enough cpus member
    obtain ⟨node, here⟩ := List.mem_iff_getElem?.1 member
    have exists_node : node < max nodes 1 := by
      rw [← number]
      exact (List.getElem?_eq_some_iff.1 here).1
    have holds := cpusOf_uniform_ne_nil few enough exists_node
    unfold cpusOf at holds
    rwa [List.getD_eq_getElem?_getD, here] at holds

/-! ## The partition -/

theorem queueNode_eq_blockOf (fewNodes : nodes < wordSize32) (index count : Nat) :
    queueNode index count nodes = blockOf index count nodes := by
  have words : 1 < wordSize32 := by decide
  have inside := blockOf_lt index count nodes
  exact Nat.mod_eq_of_lt (by omega)

/-- Processors are spread over nodes in contiguous blocks, as queues are. -/
structure Partitions (nodes count : Nat) : Prop where
  /-- The nodes are what dealing the processors out one by one leads to. -/
  dealt : (uniform nodes count).nodes = deal nodes count
  number : (uniform nodes count).nodeCount = max nodes 1
  /-- Every processor is in one node, in order. -/
  joined : (uniform nodes count).nodes.flatten = List.range count
  inhabited : (∀ cpus ∈ (uniform nodes count).nodes, cpus ≠ []) ↔ max nodes 1 ≤ count
  sizes : max nodes 1 ≤ count → (uniform nodes count).nodes.map List.length =
    List.replicate (max nodes 1 - 1) (count / max nodes 1) ++
      [count - (max nodes 1 - 1) * (count / max nodes 1)]
  /-- A processor is in the node where a queue of its number would be. -/
  alike : ∀ cpu < count, ∀ node,
    cpu ∈ (uniform nodes count).cpusOf node ↔ queueNode cpu count nodes = node

/-- Queues are spread over nodes in order, and over all nodes if there are enough queues. -/
structure SpreadsQueues (nodes count : Nat) : Prop where
  ordered : ∀ first second, first ≤ second → second < count →
    queueNode first count nodes ≤ queueNode second count nodes
  below : ∀ index < count, queueNode index count nodes < max nodes 1
  onto : max nodes 1 ≤ count →
    ∀ node < max nodes 1, ∃ index < count, queueNode index count nodes = node

/-- Processors and any number of queues are spread over the nodes alike. -/
theorem partitions (fewNodes : nodes < wordSize32) (few : count < wordSize32) :
    Partitions nodes count ∧ ∀ queues, SpreadsQueues nodes queues := by
  refine ⟨?_, fun queues => ?_⟩
  · constructor
    case dealt => exact nodes_uniform_eq_deal nodes count
    case number => exact nodeCount_uniform nodes count
    case joined => exact flatten_nodes_uniform nodes few
    case inhabited => exact nodes_uniform_ne_nil_iff few
    case sizes => exact sizes_nodes_uniform few
    case alike =>
      intro cpu below node
      rw [mem_cpusOf_uniform_iff few, queueNode_eq_blockOf fewNodes, and_iff_right below]
  · constructor
    case ordered =>
      intro first second inOrder _
      rw [queueNode_eq_blockOf fewNodes, queueNode_eq_blockOf fewNodes]
      exact blockOf_le_blockOf inOrder queues nodes
    case below =>
      intro index _
      rw [queueNode_eq_blockOf fewNodes]
      exact blockOf_lt index queues nodes
    case onto =>
      intro enough node exists_node
      obtain ⟨index, below, block⟩ := exists_blockOf_eq enough exists_node
      exact ⟨index, below, (queueNode_eq_blockOf fewNodes index queues).trans block⟩

/-- Eight processors on three nodes: the last node has four of them. Two queues leave the last node
empty. -/
theorem partitions_of_uneven_nodes :
    3 < wordSize32 ∧ 8 < wordSize32 ∧ Partitions 3 8 ∧ SpreadsQueues 3 2 ∧
      (uniform 3 8).nodes = [[0, 1], [2, 3], [4, 5, 6, 7]] ∧
      (List.range 2).map (queueNode · 2 3) = [0, 1] := by
  have few : 8 < wordSize32 := by decide
  have fewNodes : 3 < wordSize32 := by decide
  obtain ⟨partition, spreads⟩ := partitions fewNodes few
  exact ⟨fewNodes, few, partition, spreads 2, by decide, by decide⟩

end Topology

end FlowSteer
