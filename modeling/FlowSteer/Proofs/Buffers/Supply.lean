import Mathlib.Data.List.Rotate
import FlowSteer.Proofs.Buffers.Custody
import FlowSteer.Proofs.Link.Emptying

/-!
# Buffers taken in a row

Buffers are taken one by one, each of them mapped before the next. What a row of such steps comes
to is told here at once, together with what is left when all of it goes back.

1. `Datapath.takeBuffer_cases`: a buffer is refused without a trace, or it cannot be mapped and goes
   back, or the first free buffer of the pool is taken.
2. `Datapath.takeReceiveBuffers_of_working`: while the mapper works, the first free buffers are
   taken, in order and at addresses in a row, until there are enough of them or none is free.
3. `Datapath.giveBackAll_supply`: buffers taken in a row and all given back leave nothing behind but
   their pool turned round and the next address moved on.

The third needs pools in order (`Pools.Tidy`): buffers free and buffers out add up.
-/

namespace FlowSteer

/-! ## One pool -/

namespace Pool

/-- A pool in order: its free buffers are of its node and its size, and those free and those out add
up. -/
structure Tidy (node : NodeId) (pool : Pool) : Prop where
  named : pool.node = node
  inside : ∀ index ∈ pool.free, index < pool.size
  whole : pool.free.length + pool.allocated = pool.size

/-- The pool with its first free buffers given out. -/
def give (pool : Pool) (number : Nat) : Pool :=
  { pool with free := pool.free.drop number, allocated := pool.allocated + number }

/-- The pool with its first free buffers moved behind the others. -/
def turn (pool : Pool) (number : Nat) : Pool := { pool with free := pool.free.rotate number }

variable {pool : Pool} {node : NodeId} {index : Nat} {rest : List Nat}

theorem lend_eq_give (next : pool.free = index :: rest) : pool.lend rest = pool.give 1 := by
  unfold lend give
  rw [next]
  rfl

theorem give_zero (pool : Pool) : pool.give 0 = pool := rfl

theorem give_give (pool : Pool) (first second : Nat) :
    (pool.give first).give second = pool.give (first + second) := by
  unfold give
  simp only [List.drop_drop, Nat.add_assoc]

namespace Tidy

theorem full (node : NodeId) (size bufferSize : Nat) : (full node size bufferSize).Tidy node where
  named := rfl
  inside := fun _ member => lt_of_mem_indicesOf member
  whole := by
    show ((List.range size).map _).length + 0 = size
    rw [List.length_map, List.length_range, Nat.add_zero]

theorem alloc (tidy : pool.Tidy node) : pool.alloc.2.Tidy node := by
  obtain ⟨named, inside, whole⟩ := tidy
  cases next : pool.free with
  | nil =>
      rw [alloc_of_empty next]
      exact ⟨named, inside, whole⟩
  | cons index rest =>
      rw [alloc_of_free next]
      rw [next] at inside whole
      refine ⟨named, fun other member => inside other (List.mem_cons_of_mem _ member), ?_⟩
      rw [List.length_cons] at whole
      show rest.length + (pool.allocated + 1) = pool.size
      omega

/-- Any buffer may come back to a pool in order. -/
theorem release (tidy : pool.Tidy node) (buffer : Buffer) : (pool.release buffer).Tidy node := by
  by_cases ignored :
      buffer.node ≠ pool.node ∨ pool.size ≤ buffer.index ∨ pool.allocated = 0
  · rw [release_of_ignored ignored]
    exact tidy
  · obtain ⟨named, inside, whole⟩ := tidy
    have room : pool.free.length < max pool.size 1 := by omega
    unfold Pool.release
    rw [if_neg ignored, if_pos room]
    refine ⟨named, ?_, ?_⟩
    · intro index member
      rcases List.mem_append.1 member with earlier | added
      · exact inside index earlier
      · rw [List.mem_singleton.1 added]
        show buffer.index < pool.size
        omega
    · show (pool.free ++ [buffer.index]).length + (pool.allocated - 1) = pool.size
      rw [List.length_append, List.length_singleton]
      omega

end Tidy

/-- Buffers of the pool that come back in a row line up behind the free ones. -/
theorem foldl_release {pool : Pool} {returned : List Nat}
    (inside : ∀ index ∈ returned, index < pool.size)
    (areOut : returned.length ≤ pool.allocated)
    (room : pool.free.length + returned.length ≤ pool.size) :
    (returned.map fun index => { node := pool.node, index }).foldl release pool =
      { pool with
        free := pool.free ++ returned
        allocated := pool.allocated - returned.length } := by
  induction returned generalizing pool with
  | nil =>
      rw [List.append_nil]
      rfl
  | cons index rest ih =>
      rw [List.length_cons] at areOut room
      have first : pool.release { node := pool.node, index } =
          { pool with free := pool.free ++ [index], allocated := pool.allocated - 1 } :=
        release_of_accepted rfl (inside index List.mem_cons_self) (by omega) (by omega)
      rw [List.map_cons, List.foldl_cons, first]
      refine (ih ?_ ?_ ?_).trans ?_
      · exact fun other member => inside other (List.mem_cons_of_mem _ member)
      · exact Nat.le_sub_of_add_le areOut
      · show (pool.free ++ [index]).length + rest.length ≤ pool.size
        rw [List.length_append, List.length_singleton]
        omega
      · simp only [List.append_assoc, List.singleton_append, List.length_cons, Nat.sub_sub,
          Nat.add_comm 1]

/-- The first free buffers, given out and taken back, line up behind the others. -/
theorem foldl_release_give (tidy : pool.Tidy node) {number : Nat}
    (enough : number ≤ pool.available) :
    ((pool.free.take number).map fun index => { node := pool.node, index }).foldl release
      (pool.give number) = pool.turn number := by
  have taken : (pool.free.take number).length = number := List.length_take_of_le enough
  have whole := tidy.whole
  have left : (pool.give number).free.length = pool.free.length - number := List.length_drop
  refine (foldl_release ?_ ?_ ?_).trans ?_
  · exact fun index member => tidy.inside index (List.mem_of_mem_take member)
  · rw [taken]
    exact Nat.le_add_left number pool.allocated
  · rw [taken, left]
    show pool.free.length - number + number ≤ pool.size
    unfold available at enough
    omega
  · rw [taken]
    unfold give turn
    rw [List.rotate_eq_drop_append_take enough, Nat.add_sub_cancel]

end Pool

/-! ## All pools -/

namespace Pools

/-- Every pool is in order. -/
structure Tidy (pools : Pools) : Prop where
  each : ∀ {node pool}, pools.pool? node = some pool → pool.Tidy node

/-- Puts the pool of a node in place. -/
def put (pools : Pools) (node : NodeId) (pool : Pool) : Pools :=
  { pools := pools.pools.set node pool }

variable {pools : Pools} {node : NodeId} {pool other : Pool}

theorem pool?_put_self (found : pools.pool? node = some other) :
    (pools.put node pool).pool? node = some pool :=
  List.getElem?_set_self (List.getElem?_eq_some_iff.1 found).1

theorem put_put (pools : Pools) (node : NodeId) (first second : Pool) :
    (pools.put node first).put node second = pools.put node second :=
  congrArg Pools.mk (List.set_set first)

theorem put_self (found : pools.pool? node = some pool) : pools.put node pool = pools := by
  obtain ⟨present, rfl⟩ := List.getElem?_eq_some_iff.1 found
  exact congrArg Pools.mk (List.set_getElem_self present)

theorem release_of_found (buffer : Buffer) (found : pools.pool? buffer.node = some pool) :
    pools.release buffer = pools.put buffer.node (pool.release buffer) := by
  unfold release put
  rw [List.modify_eq_set_getElem?, show pools.pools[buffer.node]? = some pool from found]
  rfl

/-- Buffers of one node that come back in a row come back to its pool. -/
theorem foldl_release {buffers : List Buffer} (same : ∀ buffer ∈ buffers, buffer.node = node)
    (found : pools.pool? node = some pool) :
    buffers.foldl release pools = pools.put node (buffers.foldl Pool.release pool) := by
  induction buffers generalizing pools pool with
  | nil => exact (put_self found).symm
  | cons buffer rest ih =>
      obtain rfl := same buffer List.mem_cons_self
      rw [List.foldl_cons, List.foldl_cons, release_of_found buffer found]
      refine (ih ?_ (pool?_put_self found)).trans (put_put _ _ _ _)
      exact fun other member => same other (List.mem_cons_of_mem _ member)

namespace Tidy

theorem full (nodes size bufferSize : Nat) : (full nodes size bufferSize).Tidy := by
  refine ⟨fun {node pool} found => ?_⟩
  obtain ⟨_, listed, rfl⟩ := Option.map_eq_some_iff.1 ((List.getElem?_map ..).symm.trans found)
  obtain ⟨_, rfl⟩ := List.getElem?_eq_some_iff.1 listed
  rw [List.getElem_range]
  exact .full _ _ _

theorem put (tidy : pools.Tidy) (ordered : pool.Tidy node) : (pools.put node pool).Tidy := by
  refine ⟨fun {shown changed} found => ?_⟩
  have placed := (List.getElem?_set ..).symm.trans found
  split at placed
  · rename_i same
    split at placed
    · cases placed
      exact same ▸ ordered
    · cases placed
  · exact tidy.each placed

theorem alloc (tidy : pools.Tidy) (node : NodeId) : (pools.alloc node).2.Tidy := by
  cases found : pools.pool? node with
  | none =>
      rw [alloc_of_absent found]
      exact tidy
  | some pool =>
      have ordered := (tidy.each found).alloc
      cases next : pool.free with
      | nil =>
          rw [alloc_of_exhausted found next]
          exact tidy
      | cons index rest =>
          rw [Pool.alloc_of_free next] at ordered
          rw [alloc_of_free found next]
          exact tidy.put ordered

theorem release (tidy : pools.Tidy) (buffer : Buffer) : (pools.release buffer).Tidy := by
  refine ⟨fun {node pool} found => ?_⟩
  rw [pool?_release] at found
  split at found
  · obtain ⟨old, present, rfl⟩ := Option.map_eq_some_iff.1 found
    exact (tidy.each present).release buffer
  · exact tidy.each found

end Tidy

end Pools

/-! ## Buffers and mappings -/

namespace Datapath

/-- The buffers of a node that can be taken and mapped before the first refusal, up to a number. -/
def obtainable (datapath : Datapath) (node : NodeId) (number : Nat) : Nat :=
  if 0 < datapath.device.faults then 0
  else min number (((datapath.pools.pool? node).map Pool.available).getD 0)

/-- The first free buffers of a pool as receive descriptors, mapped one after another. -/
def receiveDescriptors (datapath : Datapath) (pool : Pool) (number : Nat) : List Descriptor :=
  (pool.free.take number).mapIdx fun position index =>
    { mapping := {
        address := datapath.device.nextAddress + 0x1000 * position
        buffer := { node := pool.node, index }
        direction := .rx }
      len := datapath.bufferSize
      flow := none }

/-- The first free buffers of a pool are taken and mapped. -/
def supply (datapath : Datapath) (node : NodeId) (pool : Pool) (number : Nat) : Datapath :=
  { datapath with
    pools := datapath.pools.put node (pool.give number)
    device := { datapath.device with
      nextAddress := datapath.device.nextAddress + 0x1000 * number
      mapped := datapath.device.mapped + number } }

/-- The first free buffer of a pool is taken, cannot be mapped, and goes back. -/
def misfire (datapath : Datapath) (node : NodeId) (pool : Pool) : Datapath :=
  { datapath with
    pools := datapath.pools.put node (pool.turn 1)
    device := { datapath.device with faults := datapath.device.faults - 1 } }

/-- The first free buffers of a pool are taken, mapped, and all given back. -/
def turned (datapath : Datapath) (node : NodeId) (pool : Pool) (number : Nat) : Datapath :=
  { datapath with
    pools := datapath.pools.put node (pool.turn number)
    device := { datapath.device with
      nextAddress := datapath.device.nextAddress + 0x1000 * number } }

variable {datapath : Datapath} {node : NodeId} {pool : Pool} {index number : Nat}
  {rest : List Nat} {direction : Direction}

/-! ### One buffer -/

theorem takeBuffer_of_absent (absent : datapath.pools.pool? node = none)
    (direction : Direction) :
    datapath.takeBuffer node direction = (.error (.noBuffer node), datapath) := by
  unfold takeBuffer
  rw [Pools.alloc_of_absent absent]

theorem takeBuffer_of_exhausted (found : datapath.pools.pool? node = some pool)
    (exhausted : pool.free = []) (direction : Direction) :
    datapath.takeBuffer node direction = (.error (.noBuffer node), datapath) := by
  unfold takeBuffer
  rw [Pools.alloc_of_exhausted found exhausted]

theorem takeBuffer_of_working (found : datapath.pools.pool? node = some pool)
    (next : pool.free = index :: rest) (working : datapath.device.faults = 0)
    (direction : Direction) :
    datapath.takeBuffer node direction =
      (.ok { address := datapath.device.nextAddress, buffer := { node := pool.node, index },
             direction },
        datapath.supply node pool 1) := by
  unfold takeBuffer Device.mapBuffer supply
  rw [Pools.alloc_of_free found next, Pool.lend_eq_give next]
  simp only [working, Nat.lt_irrefl, if_false]
  rfl

theorem takeBuffer_of_faulty (found : datapath.pools.pool? node = some pool)
    (tidy : pool.Tidy node) (next : pool.free = index :: rest)
    (faulty : 0 < datapath.device.faults) (direction : Direction) :
    datapath.takeBuffer node direction =
      (.error (.mapRefused (Device.faultText { node := pool.node, index })),
        datapath.misfire node pool) := by
  have returned : (pool.give 1).release { node := pool.node, index } = pool.turn 1 := by
    have enough : 1 ≤ pool.available := by
      unfold Pool.available
      rw [next]
      exact Nat.le_add_left 1 rest.length
    have turned := Pool.foldl_release_give tidy enough
    rw [next] at turned
    exact turned
  have placed : (datapath.pools.put node (pool.give 1)).pool? node = some (pool.give 1) :=
    Pools.pool?_put_self found
  have given : Pools.release { pools := datapath.pools.pools.set node (pool.give 1) }
      { node := pool.node, index } = datapath.pools.put node (pool.turn 1) := by
    rw [← tidy.named] at placed ⊢
    refine (Pools.release_of_found { node := pool.node, index } placed).trans ?_
    rw [returned]
    exact Pools.put_put _ _ _ _
  unfold takeBuffer Device.mapBuffer misfire
  rw [Pools.alloc_of_free found next, Pool.lend_eq_give next]
  simp only [faulty, if_true]
  rw [given]

/-- How taking a buffer of a node can end. -/
theorem takeBuffer_cases (tidy : datapath.pools.Tidy) (node : NodeId) (direction : Direction) :
    (((datapath.pools.pool? node).map Pool.available).getD 0 = 0 ∧
      datapath.takeBuffer node direction = (.error (.noBuffer node), datapath)) ∨
    ∃ pool index rest, datapath.pools.pool? node = some pool ∧ pool.free = index :: rest ∧
      ((0 < datapath.device.faults ∧ datapath.takeBuffer node direction =
        (.error (.mapRefused (Device.faultText { node, index })), datapath.misfire node pool)) ∨
      (datapath.device.faults = 0 ∧ datapath.takeBuffer node direction =
        (.ok { address := datapath.device.nextAddress, buffer := { node, index }, direction },
          datapath.supply node pool 1))) := by
  cases found : datapath.pools.pool? node with
  | none => exact .inl ⟨rfl, takeBuffer_of_absent found direction⟩
  | some pool =>
      have ordered := tidy.each found
      cases next : pool.free with
      | nil =>
          refine .inl ⟨?_, takeBuffer_of_exhausted found next direction⟩
          exact congrArg List.length next
      | cons index rest =>
          refine .inr ⟨pool, index, rest, rfl, next, ?_⟩
          rcases Nat.eq_zero_or_pos datapath.device.faults with working | faulty
          · have taken := takeBuffer_of_working found next working direction
            rw [ordered.named] at taken
            exact .inr ⟨working, taken⟩
          · have refused := takeBuffer_of_faulty found ordered next faulty direction
            rw [ordered.named] at refused
            exact .inl ⟨faulty, refused⟩

/-! ### Many buffers -/

theorem supply_zero (found : datapath.pools.pool? node = some pool) :
    datapath.supply node pool 0 = datapath := by
  unfold supply
  rw [Pool.give_zero, Pools.put_self found]
  rfl

theorem supply_supply (datapath : Datapath) (node : NodeId) (pool : Pool) (first second : Nat) :
    (datapath.supply node pool first).supply node (pool.give first) second =
      datapath.supply node pool (first + second) := by
  unfold supply
  simp only [Pools.put_put, Pool.give_give, Nat.mul_add, Nat.add_assoc]

theorem receiveDescriptors_succ (node : NodeId) (next : pool.free = index :: rest)
    (number : Nat) :
    datapath.receiveDescriptors pool (number + 1) =
      { mapping := {
          address := datapath.device.nextAddress
          buffer := { node := pool.node, index }
          direction := .rx }
        len := datapath.bufferSize
        flow := none } ::
      (datapath.supply node pool 1).receiveDescriptors (pool.give 1) number := by
  have moved : ∀ position, datapath.device.nextAddress + 0x1000 * (position + 1) =
      datapath.device.nextAddress + 0x1000 * 1 + 0x1000 * position := by
    intro position
    omega
  unfold receiveDescriptors supply Pool.give
  rw [next, List.take_succ_cons, List.mapIdx_cons]
  refine congrArg₂ List.cons rfl (congrArg (List.mapIdx · (rest.take number)) ?_)
  funext position index
  rw [moved]

/-- While the mapper works, the first free buffers are taken until there are enough of them or none
is free. -/
theorem takeReceiveBuffers_of_working (found : datapath.pools.pool? node = some pool)
    (working : datapath.device.faults = 0) (number : Nat) :
    takeReceiveBuffers node number datapath =
      (datapath.receiveDescriptors pool (min number pool.available),
        if pool.available < number then some (.noBuffer node) else none,
        datapath.supply node pool (min number pool.available)) := by
  induction number generalizing datapath pool with
  | zero =>
      rw [Nat.zero_min, supply_zero found]
      rfl
  | succ number ih =>
      unfold takeReceiveBuffers
      cases next : pool.free with
      | nil =>
          have none : pool.available = 0 := congrArg List.length next
          rw [takeBuffer_of_exhausted found next, none, Nat.min_zero, supply_zero found,
            if_pos (Nat.succ_pos number)]
          rfl
      | cons index rest =>
          have placed : (datapath.supply node pool 1).pools.pool? node = some (pool.give 1) :=
            Pools.pool?_put_self found
          have left : pool.available = (pool.give 1).available + 1 := by
            unfold Pool.available Pool.give
            rw [next]
            rfl
          rw [takeBuffer_of_working found next working]
          simp only [ih placed working, supply_supply]
          rw [left, Nat.succ_min_succ, receiveDescriptors_succ node next,
            Nat.add_comm 1]
          simp only [Nat.add_lt_add_iff_right]
          rfl

/-- The mapper refuses the first buffer already. -/
theorem takeReceiveBuffers_of_refused {error : ControlError} {after : Datapath}
    (refused : datapath.takeBuffer node .rx = (.error error, after)) (number : Nat) :
    takeReceiveBuffers node (number + 1) datapath = ([], some error, after) := by
  unfold takeReceiveBuffers
  rw [refused]

theorem buffers_receiveDescriptors (datapath : Datapath) (pool : Pool) (number : Nat) :
    ((datapath.receiveDescriptors pool number).map (·.mapping)).map (·.buffer) =
      (pool.free.take number).map fun index => { node := pool.node, index } := by
  apply List.ext_getElem
  · simp [receiveDescriptors]
  · intro position _ _
    simp [receiveDescriptors]

theorem length_receiveDescriptors (datapath : Datapath) (pool : Pool) (number : Nat) :
    (datapath.receiveDescriptors pool number).length = min number pool.available := by
  unfold receiveDescriptors
  rw [List.length_mapIdx, List.length_take]
  rfl

theorem obtainable_of_working (found : datapath.pools.pool? node = some pool)
    (working : datapath.device.faults = 0) (number : Nat) :
    datapath.obtainable node number = min number pool.available := by
  unfold obtainable
  rw [found, if_neg (Nat.not_lt.2 working.le)]
  rfl

/-- How many buffers are taken before the first refusal, or before there are enough of them. -/
theorem length_takeReceiveBuffers (tidy : datapath.pools.Tidy) (node : NodeId) (number : Nat) :
    (takeReceiveBuffers node number datapath).1.length = datapath.obtainable node number := by
  cases number with
  | zero => simp [takeReceiveBuffers, obtainable]
  | succ number =>
      rcases takeBuffer_cases tidy node .rx with
        ⟨none, result⟩ | ⟨pool, _, _, found, _, ⟨faulty, result⟩ | ⟨working, _⟩⟩
      · unfold obtainable
        rw [takeReceiveBuffers_of_refused result, none, Nat.min_zero, ite_self]
        rfl
      · unfold obtainable
        rw [takeReceiveBuffers_of_refused result, if_pos faulty]
        rfl
      · rw [takeReceiveBuffers_of_working found working, obtainable_of_working found working]
        show (datapath.receiveDescriptors pool _).length = _
        rw [length_receiveDescriptors, Nat.min_assoc, Nat.min_self]

/-- Buffers taken in a row and all given back. -/
theorem giveBackAll_supply (found : datapath.pools.pool? node = some pool)
    (tidy : pool.Tidy node) (enough : number ≤ pool.available) {mappings : List Mapping}
    (taken : mappings.map (·.buffer) =
      (pool.free.take number).map fun index => { node := pool.node, index }) :
    mappings.foldl giveBack (datapath.supply node pool number) =
      datapath.turned node pool number := by
  have length : mappings.length = number := by
    rw [← List.length_map (·.buffer), taken, List.length_map, List.length_take_of_le enough]
  have same : ∀ buffer ∈ mappings.map (·.buffer), buffer.node = node := by
    intro buffer member
    rw [taken] at member
    obtain ⟨_, _, rfl⟩ := List.mem_map.1 member
    exact tidy.named
  have placed : (datapath.supply node pool number).pools.pool? node = some (pool.give number) :=
    Pools.pool?_put_self found
  have returned := Pools.foldl_release same placed
  rw [List.foldl_map, taken, Pool.foldl_release_give tidy enough] at returned
  rw [giveBackAll_eq, returned, length]
  unfold supply turned
  simp only [Pools.put_put, Nat.add_sub_cancel]

end Datapath

end FlowSteer
