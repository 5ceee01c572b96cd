import FlowSteer.Proofs.Buffers.Supply

/-!
# The counts of a pool

A pool counts its free buffers and the buffers that are out. Whatever is called on it, also with
buffers that are of another node, outside the pool, never given out or back already, both counts
make up the size of the pool.

1. `Tidy.addsUp`: what follows where they do: a buffer is refused exactly when all are out, and one
   that comes back finds a place in the list of free ones.
2. `addsUp_run`: the counts add up after any calls.
-/

namespace FlowSteer

namespace Pool

/-- The pool after a call. -/
def step (pool : Pool) : PoolCall → Pool
  | .alloc => pool.alloc.2
  | .release buffer => pool.release buffer

/-- The pool after some calls. -/
def run (pool : Pool) (calls : List PoolCall) : Pool := calls.foldl step pool

/-- A pool ignores a buffer of another node, one outside the pool, and any while none is out. -/
def Ignores (pool : Pool) (buffer : Buffer) : Prop :=
  buffer.node ≠ pool.node ∨ pool.size ≤ buffer.index ∨ pool.allocated = 0

/-- Number of places in the list of free buffers. A pool without buffers has one all the same. -/
def places (pool : Pool) : Nat := max pool.size 1

/-- What the counts of a pool say that was made for a node with a size. -/
structure AddsUp (node : NodeId) (size : Nat) (pool : Pool) : Prop where
  named : pool.node = node
  sized : pool.size = size
  total : pool.available + pool.allocated = size
  refused_iff : pool.alloc.1 = none ↔ pool.allocated = size
  /-- A pool that refuses is left as it is. -/
  refused : pool.alloc.1 = none → pool.alloc.2 = pool
  /-- A buffer that is given out leaves one count for the other. -/
  given : ∀ {buffer}, pool.alloc.1 = some buffer →
    pool.alloc.2.available + 1 = pool.available ∧
      pool.alloc.2.allocated = pool.allocated + 1
  ignored : ∀ {buffer}, pool.Ignores buffer → pool.release buffer = pool
  /-- A buffer that is not ignored finds a place in the list of free ones, whether it was out or
  not. -/
  listed : ∀ {buffer}, ¬pool.Ignores buffer → pool.free.length < pool.places ∧
    pool.release buffer =
      { pool with free := pool.free ++ [buffer.index], allocated := pool.allocated - 1 }

variable {pool : Pool} {node : NodeId} {buffer : Buffer}

theorem not_ignores_iff : ¬pool.Ignores buffer ↔
    buffer.node = pool.node ∧ buffer.index < pool.size ∧ pool.allocated ≠ 0 := by
  unfold Ignores
  rw [not_or, not_or, Decidable.not_not, Nat.not_le]

theorem size_step (pool : Pool) (call : PoolCall) : (pool.step call).size = pool.size := by
  cases call with
  | alloc => exact pool.size_alloc
  | release buffer => exact pool.size_release buffer

theorem size_run (pool : Pool) (calls : List PoolCall) : (pool.run calls).size = pool.size := by
  induction calls generalizing pool with
  | nil => rfl
  | cons call rest ih => exact (ih (pool.step call)).trans (pool.size_step call)

namespace Tidy

theorem step (tidy : pool.Tidy node) (call : PoolCall) : (pool.step call).Tidy node := by
  cases call with
  | alloc => exact tidy.alloc
  | release buffer => exact tidy.release buffer

theorem run (tidy : pool.Tidy node) (calls : List PoolCall) : (pool.run calls).Tidy node := by
  induction calls generalizing pool with
  | nil => exact tidy
  | cons call rest ih => exact ih (tidy.step call)

/-- A buffer that comes back while some are out finds a place. -/
theorem room (tidy : pool.Tidy node) (someOut : pool.allocated ≠ 0) :
    pool.free.length < pool.places := by
  have whole := tidy.whole
  unfold places
  omega

theorem addsUp (tidy : pool.Tidy node) : pool.AddsUp node pool.size where
  named := tidy.named
  sized := rfl
  total := tidy.whole
  refused_iff := by
    have whole := tidy.whole
    cases next : pool.free with
    | nil =>
        rw [next, List.length_nil, Nat.zero_add] at whole
        rw [alloc_of_empty next]
        exact iff_of_true rfl whole
    | cons index rest =>
        rw [next, List.length_cons] at whole
        rw [alloc_of_free next]
        exact iff_of_false nofun (by omega)
  refused := by
    intro refused
    cases next : pool.free with
    | nil => rw [alloc_of_empty next]
    | cons index rest =>
        rw [alloc_of_free next] at refused
        cases refused
  given := by
    intro buffer given
    cases next : pool.free with
    | nil =>
        rw [alloc_of_empty next] at given
        cases given
    | cons index rest =>
        rw [alloc_of_free next]
        unfold available
        rw [next]
        exact ⟨rfl, rfl⟩
  ignored := release_of_ignored
  listed := by
    intro buffer notIgnored
    obtain ⟨named, inside, someOut⟩ := not_ignores_iff.1 notIgnored
    have room := tidy.room someOut
    exact ⟨room, release_of_accepted named inside someOut room⟩

end Tidy

/-- The counts of a pool make up its size after any calls. -/
theorem addsUp_run (node : NodeId) (size bufferSize : Nat) (calls : List PoolCall) :
    ((full node size bufferSize).run calls).AddsUp node size := by
  have counts := ((Tidy.full node size bufferSize).run calls).addsUp
  rwa [size_run] at counts

/-- One buffer comes back three times, a second one not at all. The pool takes it twice, for both of
those that are out, and then no longer. -/
example :
    let pool := (full 0 2 64).run [.alloc, .alloc, .alloc, .release { node := 1, index := 0 },
      .release { node := 0, index := 2 }, .release { node := 0, index := 0 },
      .release { node := 0, index := 0 }, .release { node := 0, index := 0 }]
    pool.free = [0, 0] ∧ pool.allocated = 0 := by
  decide

end Pool

end FlowSteer
