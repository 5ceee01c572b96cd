import FlowSteer.ControlError

/-!
# Buffer pools

One pool of buffers for each memory node, all of them made at bring-up. A buffer is named by its
node and its index. Buffers are given out in the order in which they became free. A buffer that
comes back to the wrong pool, or while none is out, is ignored.
-/

namespace FlowSteer

/-- Name of a buffer. -/
structure Buffer where
  node : NodeId
  index : Nat
deriving DecidableEq, Inhabited

/-- The buffers of one memory node. -/
structure Pool where
  node : NodeId
  size : Nat
  /-- Bytes of each buffer. -/
  bufferSize : Nat
  /-- Free buffers, the next to be given out first. -/
  free : List Nat
  /-- Number of buffers given out. -/
  allocated : Nat := 0
deriving DecidableEq, Inhabited

namespace Pool

/-- A pool with all its buffers free. The index of a buffer is a 32-bit word, so that more than
`wordSize32` buffers share their indices. -/
def full (node : NodeId) (size bufferSize : Nat) : Pool where
  node
  size
  bufferSize
  free := (List.range size).map (· % wordSize32)

/-- Number of free buffers. -/
def available (pool : Pool) : Nat := pool.free.length

/-- Gives out a buffer. -/
def alloc (pool : Pool) : Option Buffer × Pool :=
  match pool.free with
  | [] => (none, pool)
  | index :: rest =>
      (some { node := pool.node, index },
        { pool with free := rest, allocated := pool.allocated + 1 })

/-- Takes a buffer back. -/
def release (pool : Pool) (buffer : Buffer) : Pool :=
  if buffer.node ≠ pool.node ∨ pool.size ≤ buffer.index ∨ pool.allocated = 0 then pool
  else
    let returned := { pool with allocated := pool.allocated - 1 }
    -- A buffer that came back twice can find the list of free ones full; it is not listed again.
    if pool.free.length < max pool.size 1 then
      { returned with free := pool.free ++ [buffer.index] }
    else returned

end Pool

/-- The pools of all memory nodes, in the order of their nodes. -/
structure Pools where
  pools : List Pool
deriving DecidableEq, Inhabited

namespace Pools

/-- One full pool for each node; there is at least one. Nodes are named by 32-bit words, so that no
pool after the first `wordSize32` can be asked for. -/
def full (nodes perNode bufferSize : Nat) : Pools where
  pools := (List.range (max nodes 1)).map fun node => .full node perNode bufferSize

/-- The pool of a node. -/
def pool? (pools : Pools) (node : NodeId) : Option Pool := pools.pools[node]?

/-- Gives out a buffer of a node. -/
def alloc (pools : Pools) (node : NodeId) :
    Except ControlError Buffer × Pools :=
  match pools.pool? node with
  | none => (.error (.noBuffer node), pools)
  | some pool =>
      match pool.alloc with
      | (none, _) => (.error (.noBuffer node), pools)
      | (some buffer, rest) => (.ok buffer, { pools := pools.pools.set node rest })

/-- Takes a buffer back into the pool of its node. -/
def release (pools : Pools) (buffer : Buffer) : Pools :=
  { pools := pools.pools.modify buffer.node (·.release buffer) }

/-- Number of buffers given out. -/
def allocated (pools : Pools) : Nat :=
  pools.pools.foldr (fun pool given => pool.allocated + given) 0

end Pools

end FlowSteer
