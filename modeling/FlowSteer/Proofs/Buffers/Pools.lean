import Mathlib.Algebra.BigOperators.Group.Finset.Basic
import Mathlib.Data.Multiset.Filter
import Mathlib.Data.Multiset.Range
import FlowSteer.Pool

/-!
# What pools have lent

A pool knows which buffers are free and how many are out, but not which ones are out. `Lends`
says that some buffers are exactly those that are out: together with the free ones they make up
the pool, each buffer once. As long as indices do not run over, the buffers are told apart by them
(`Pool.indicesOf_of_small`).

* `Pools.Lend.alloc`, `Pools.Lend.release`: giving a buffer out and taking it back;
* `Pools.Lend.allocated_eq`: the number of buffers out, over all pools.

A buffer that is out always finds its way back: none of the conditions under which a pool ignores
a buffer holds for it.
-/

namespace FlowSteer

/-- Indices of the buffers of one node. -/
def indices (node : NodeId) (buffers : Multiset Buffer) : Multiset Nat :=
  (buffers.filter (·.node = node)).map (·.index)

theorem indices_mono (node : NodeId) {part whole : Multiset Buffer} (isPart : part ≤ whole) :
    indices node part ≤ indices node whole :=
  Multiset.map_le_map (Multiset.filter_le_filter _ isPart)

theorem indices_cons_of_eq {node : NodeId} {buffer : Buffer} (same : buffer.node = node)
    (buffers : Multiset Buffer) :
    indices node (buffer ::ₘ buffers) = buffer.index ::ₘ indices node buffers := by
  unfold indices
  rw [Multiset.filter_cons_of_pos (p := fun buffer : Buffer => buffer.node = node) _ same,
    Multiset.map_cons]

theorem indices_cons_of_ne {node : NodeId} {buffer : Buffer} (different : buffer.node ≠ node)
    (buffers : Multiset Buffer) : indices node (buffer ::ₘ buffers) = indices node buffers := by
  unfold indices
  rw [Multiset.filter_cons_of_neg (p := fun buffer : Buffer => buffer.node = node) _ different]

/-- Buffers that are all of one node count as many as their indices. -/
theorem card_indices_of_local {node : NodeId} {buffers : Multiset Buffer}
    (same : ∀ buffer ∈ buffers, buffer.node = node) :
    Multiset.card (indices node buffers) = Multiset.card buffers := by
  unfold indices
  rw [Multiset.card_map, Multiset.filter_eq_self.2 same]

/-! ## One pool -/

namespace Pool

/-- The indices of all buffers of a pool with a size. -/
def indicesOf (size : Nat) : Multiset Nat := (Multiset.range size).map (· % wordSize32)

/-- With no more buffers than there are words, each index below the size is there once. -/
theorem indicesOf_of_small {size : Nat} (small : size ≤ wordSize32) :
    indicesOf size = Multiset.range size := by
  have exact : ∀ index ∈ Multiset.range size, index % wordSize32 = index := by
    intro index below
    exact Nat.mod_eq_of_lt (Nat.lt_of_lt_of_le (Multiset.mem_range.1 below) small)
  unfold indicesOf
  rw [Multiset.map_congr rfl exact, Multiset.map_id']

theorem card_indicesOf (size : Nat) : Multiset.card (indicesOf size) = size := by
  unfold indicesOf
  rw [Multiset.card_map, Multiset.card_range]

theorem lt_of_mem_indicesOf {size index : Nat} (member : index ∈ indicesOf size) :
    index < size := by
  obtain ⟨position, below, rfl⟩ := Multiset.mem_map.1 member
  exact Nat.lt_of_le_of_lt (Nat.mod_le _ _) (Multiset.mem_range.1 below)

/-- Exactly the buffers with some indices are out. -/
structure Lends (pool : Pool) (out : Multiset Nat) : Prop where
  /-- Free buffers and buffers out make up the pool, each buffer once. -/
  partition : (pool.free : Multiset Nat) + out = indicesOf pool.size
  counted : pool.allocated = Multiset.card out

/-- The pool with one more buffer out. -/
def lend (pool : Pool) (rest : List Nat) : Pool :=
  { pool with free := rest, allocated := pool.allocated + 1 }

variable {pool : Pool} {out : Multiset Nat} {index : Nat} {rest : List Nat}

theorem alloc_of_free (next : pool.free = index :: rest) :
    pool.alloc = (some { node := pool.node, index }, pool.lend rest) := by
  unfold alloc
  rw [next]
  rfl

theorem alloc_of_empty (exhausted : pool.free = []) : pool.alloc = (none, pool) := by
  unfold alloc
  rw [exhausted]

/-- A buffer of the pool is taken back while some are out and there is room for it. -/
theorem release_of_accepted {buffer : Buffer} (named : buffer.node = pool.node)
    (inside : buffer.index < pool.size) (someOut : pool.allocated ≠ 0)
    (room : pool.free.length < max pool.size 1) :
    pool.release buffer =
      { pool with free := pool.free ++ [buffer.index], allocated := pool.allocated - 1 } := by
  have accepted :
      ¬(buffer.node ≠ pool.node ∨ pool.size ≤ buffer.index ∨ pool.allocated = 0) := by
    rintro (different | outside | noneOut)
    · exact different named
    · exact Nat.not_le.2 inside outside
    · exact someOut noneOut
  unfold release
  rw [if_neg accepted]
  exact if_pos room

@[simp] theorem size_alloc (pool : Pool) : pool.alloc.2.size = pool.size := by
  unfold alloc
  split <;> rfl

@[simp] theorem size_release (pool : Pool) (buffer : Buffer) :
    (pool.release buffer).size = pool.size := by
  unfold release
  split
  · rfl
  · simp only []
    split <;> rfl

namespace Lends

theorem full (node : NodeId) (size bufferSize : Nat) : (full node size bufferSize).Lends 0 :=
  ⟨add_zero _, rfl⟩

theorem lend (lends : pool.Lends out) (next : pool.free = index :: rest) :
    (pool.lend rest).Lends (index ::ₘ out) := by
  constructor
  · show (rest : Multiset Nat) + index ::ₘ out = indicesOf pool.size
    rw [Multiset.add_cons, ← Multiset.cons_add, Multiset.cons_coe, ← next]
    exact lends.partition
  · show pool.allocated + 1 = Multiset.card (index ::ₘ out)
    rw [Multiset.card_cons, ← lends.counted]

theorem card_le (lends : pool.Lends out) : Multiset.card out ≤ pool.size := by
  have whole := congrArg Multiset.card lends.partition
  rw [Multiset.card_add, card_indicesOf] at whole
  omega

/-- A buffer that is out is taken back. -/
theorem release_eq (lends : pool.Lends (index ::ₘ out)) :
    pool.release { node := pool.node, index } =
      { pool with free := pool.free ++ [index], allocated := pool.allocated - 1 } := by
  have whole := congrArg Multiset.card lends.partition
  rw [Multiset.card_add, Multiset.coe_card, Multiset.card_cons, card_indicesOf] at whole
  have inPool : index < pool.size := by
    apply lt_of_mem_indicesOf
    rw [← lends.partition]
    exact Multiset.mem_add.2 (.inr (Multiset.mem_cons_self index out))
  have someOut : pool.allocated ≠ 0 := by
    rw [lends.counted, Multiset.card_cons]
    exact Nat.succ_ne_zero _
  exact release_of_accepted rfl inPool someOut (by omega)

theorem release (lends : pool.Lends (index ::ₘ out)) :
    (pool.release { node := pool.node, index }).Lends out := by
  rw [lends.release_eq]
  constructor
  · show ((pool.free ++ [index] : List Nat) : Multiset Nat) + out = indicesOf pool.size
    rw [← lends.partition, ← Multiset.coe_add, Multiset.coe_singleton, add_assoc,
      Multiset.singleton_add]
  · show pool.allocated - 1 = Multiset.card out
    rw [lends.counted, Multiset.card_cons, Nat.add_sub_cancel]

end Lends

end Pool

/-! ## All pools -/

namespace Pools

/-- Exactly some buffers are out of the pools of some nodes, which have one size. -/
structure Lend (nodes size : Nat) (pools : Pools) (out : Multiset Buffer) : Prop where
  number : pools.pools.length = nodes
  each : ∀ {node pool}, pools.pool? node = some pool →
    pool.node = node ∧ pool.size = size ∧ pool.Lends (indices node out)
  known : ∀ buffer ∈ out, buffer.node < nodes

variable {nodes size : Nat} {pools : Pools} {out : Multiset Buffer} {node : NodeId}
  {buffer : Buffer}

theorem alloc_of_absent (absent : pools.pool? node = none) :
    pools.alloc node = (.error (.noBuffer node), pools) := by
  unfold alloc
  rw [absent]

theorem alloc_of_exhausted {pool : Pool} (found : pools.pool? node = some pool)
    (exhausted : pool.free = []) : pools.alloc node = (.error (.noBuffer node), pools) := by
  unfold alloc
  simp only [found, Pool.alloc_of_empty exhausted]

theorem alloc_of_free {pool : Pool} {index : Nat} {rest : List Nat}
    (found : pools.pool? node = some pool) (next : pool.free = index :: rest) :
    pools.alloc node =
      (.ok { node := pool.node, index }, { pools := pools.pools.set node (pool.lend rest) }) := by
  unfold alloc
  simp only [found, Pool.alloc_of_free next]

theorem pool?_set (pools : Pools) (node other : NodeId) (pool : Pool)
    (present : node < pools.pools.length) :
    ({ pools := pools.pools.set node pool } : Pools).pool? other =
      if other = node then some pool else pools.pool? other := by
  unfold pool?
  rw [List.getElem?_set]
  by_cases same : other = node
  · rw [if_pos same, if_pos same.symm, if_pos present]
  · rw [if_neg same, if_neg (Ne.symm same)]

theorem pool?_release (pools : Pools) (buffer : Buffer) (other : NodeId) :
    (pools.release buffer).pool? other =
      if other = buffer.node then (pools.pool? other).map (·.release buffer)
      else pools.pool? other := by
  unfold pool? release
  rw [List.getElem?_modify]
  by_cases same : other = buffer.node
  · simp only [same, if_true]
    rfl
  · simp only [same, Ne.symm same, if_false]
    exact Option.map_id'

namespace Lend

theorem full (nodes size bufferSize : Nat) :
    Lend (max nodes 1) size (full nodes size bufferSize) 0 := by
  constructor
  · show ((List.range (max nodes 1)).map _).length = _
    rw [List.length_map, List.length_range]
  · intro node pool found
    obtain ⟨_, listed, rfl⟩ := Option.map_eq_some_iff.1 ((List.getElem?_map ..).symm.trans found)
    obtain ⟨_, rfl⟩ := List.getElem?_eq_some_iff.1 listed
    rw [List.getElem_range]
    exact ⟨rfl, rfl, Pool.Lends.full _ _ _⟩
  · exact fun buffer member => absurd member (Multiset.notMem_zero buffer)

/-- A request for a buffer is refused without a trace, or one more buffer is out. -/
theorem alloc (lend : Lend nodes size pools out) (node : NodeId) :
    (∃ error, pools.alloc node = (.error error, pools)) ∨
    ∃ buffer rest, pools.alloc node = (.ok buffer, rest) ∧ buffer.node = node ∧
      Lend nodes size rest (buffer ::ₘ out) := by
  cases found : pools.pool? node with
  | none => exact .inl ⟨_, alloc_of_absent found⟩
  | some pool =>
      cases next : pool.free with
      | nil => exact .inl ⟨_, alloc_of_exhausted found next⟩
      | cons index rest =>
          obtain ⟨named, sized, lends⟩ := lend.each found
          have present : node < pools.pools.length := (List.getElem?_eq_some_iff.1 found).1
          refine .inr ⟨_, _, alloc_of_free found next, named, ?_, ?_, ?_⟩
          · show (pools.pools.set node _).length = nodes
            rw [List.length_set, lend.number]
          · intro other changed shown
            rw [pool?_set pools node other _ present] at shown
            split at shown
            · rename_i same
              cases shown
              rw [indices_cons_of_eq (named.trans same.symm), same]
              exact ⟨named, sized, lends.lend next⟩
            · rename_i different
              rw [indices_cons_of_ne fun same => different (same.symm.trans named)]
              exact lend.each shown
          · intro other member
            rcases Multiset.mem_cons.1 member with same | earlier
            · rw [same, ← lend.number]
              exact named.trans_lt present
            · exact lend.known other earlier

/-- A buffer that is out is taken back. -/
theorem release (lend : Lend nodes size pools (buffer ::ₘ out)) :
    Lend nodes size (pools.release buffer) out := by
  constructor
  · show (pools.pools.modify buffer.node _).length = nodes
    rw [List.length_modify, lend.number]
  · intro node pool found
    rw [pool?_release] at found
    split at found
    · rename_i same
      obtain ⟨old, present, rfl⟩ := Option.map_eq_some_iff.1 found
      obtain ⟨named, sized, lends⟩ := lend.each present
      rw [indices_cons_of_eq same.symm] at lends
      have returned : buffer = { node := old.node, index := buffer.index } := by
        rw [named, same]
      rw [returned]
      refine ⟨?_, ?_, lends.release⟩
      · rw [lends.release_eq]
        exact named
      · rw [lends.release_eq]
        exact sized
    · rename_i different
      have kept := lend.each found
      rwa [indices_cons_of_ne (Ne.symm different)] at kept
  · exact fun other member => lend.known other (Multiset.mem_cons_of_mem member)

/-- Of one node no more buffers are out than its pool has. -/
theorem card_le_of_local (lend : Lend nodes size pools out) {part : Multiset Buffer}
    (isPart : part ≤ out) (same : ∀ buffer ∈ part, buffer.node = node) :
    Multiset.card part ≤ size := by
  by_cases empty : part = 0
  · rw [empty]
    exact Nat.zero_le size
  · obtain ⟨buffer, member⟩ := Multiset.exists_mem_of_ne_zero empty
    have known : node < pools.pools.length := by
      rw [lend.number, ← same buffer member]
      exact lend.known buffer (Multiset.mem_of_le isPart member)
    obtain ⟨_, sized, lends⟩ := lend.each (List.getElem?_eq_getElem known)
    have bounded := lends.card_le
    rw [sized] at bounded
    rw [← card_indices_of_local same]
    exact (Multiset.card_le_card (indices_mono node isPart)).trans bounded

/-- The buffers out are counted over all pools. -/
theorem allocated_eq (lend : Lend nodes size pools out) :
    pools.allocated = Multiset.card out := by
  have counts : pools.pools.map (·.allocated) =
      (List.range nodes).map fun node => Multiset.count node (out.map (·.node)) := by
    apply List.ext_getElem
    · rw [List.length_map, List.length_map, List.length_range, lend.number]
    · intro node inPools _
      rw [List.length_map] at inPools
      rw [List.getElem_map, List.getElem_map, List.getElem_range]
      obtain ⟨_, _, lends⟩ := lend.each (List.getElem?_eq_getElem inPools)
      rw [lends.counted, Multiset.count_map, indices, Multiset.card_map]
      congr 2
      funext buffer
      exact propext eq_comm
  have known : ∀ node ∈ out.map (·.node), node ∈ Finset.range nodes := by
    intro node member
    obtain ⟨buffer, isOut, rfl⟩ := Multiset.mem_map.1 member
    exact Finset.mem_range.2 (lend.known buffer isOut)
  have summed : pools.allocated = (pools.pools.map (·.allocated)).sum := by
    rw [List.sum, List.foldr_map]
    rfl
  rw [summed, counts, ← Multiset.card_map (·.node) out, ← Multiset.sum_count_eq_card known]
  rfl

end Lend

end Pools

end FlowSteer
