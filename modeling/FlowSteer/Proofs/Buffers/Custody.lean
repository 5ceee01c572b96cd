import Mathlib.Data.Finset.Basic
import FlowSteer.Proofs.Buffers.Pools

/-!
# Buffers that come back twice

A pool counts the buffers that are out, but does not know which ones they are. A buffer that comes
back a second time is ignored only while no buffer is out at all; otherwise it is listed as free
again, and goes out a second time later.

* `Custody`, `PoolsCustody`: a pool, or all pools, beside the buffers that are out by what was given
  out and came back;
* `Exclusive`: no buffer is listed as free twice, and none that is out is given out;
* `Stray`: a buffer of the pool comes back which is not out, while others are out;
* `exclusive_until_stray`: after any calls, pools have stayed exclusive exactly when the indices of
  their buffers differ and no stray buffer has come back.

With more buffers than 32-bit words, a new pool already lists an index twice
(`Pool.not_nodup_full`).
-/

namespace FlowSteer

/-- Something holds of every state on the way from a good one exactly when no bad call is made: good
states have it, calls that are not bad lead from good states to good ones, and a bad call ends
it. -/
theorem holds_throughout_iff {State Call : Type} {step : State → Call → State}
    {good holds : State → Prop} {bad : State → Call → Prop}
    (holdsOfGood : ∀ {state}, good state → holds state)
    (kept : ∀ {state call}, good state → ¬bad state call → good (step state call))
    (ended : ∀ {state call}, good state → bad state call → ¬holds (step state call))
    {start : State} (startGood : good start) (calls : List Call) :
    (∀ earlier, earlier <+: calls → holds (earlier.foldl step start)) ↔
      ∀ earlier call, earlier ++ [call] <+: calls → ¬bad (earlier.foldl step start) call := by
  constructor
  · intro throughout
    have goodUpTo : ∀ earlier, earlier <+: calls → good (earlier.foldl step start) := by
      intro earlier
      induction earlier using List.reverseRecOn with
      | nil => exact fun _ => startGood
      | append_singleton earlier call ih =>
          intro isPrefix
          have reached := ih ((List.prefix_append earlier [call]).trans isPrefix)
          have after := throughout (earlier ++ [call]) isPrefix
          rw [List.foldl_concat] at after ⊢
          exact kept reached fun isBad => ended reached isBad after
    intro earlier call isPrefix isBad
    have reached := goodUpTo earlier ((List.prefix_append earlier [call]).trans isPrefix)
    have after := throughout (earlier ++ [call]) isPrefix
    rw [List.foldl_concat] at after
    exact ended reached isBad after
  · intro never earlier isPrefix
    suffices reached : good (earlier.foldl step start) from holdsOfGood reached
    induction earlier using List.reverseRecOn with
    | nil => exact startGood
    | append_singleton earlier call ih =>
        rw [List.foldl_concat]
        exact kept (ih ((List.prefix_append earlier [call]).trans isPrefix))
          (never earlier call isPrefix)

namespace Pool

variable {pool : Pool} {buffer : Buffer}

theorem release_of_ignored
    (ignored : buffer.node ≠ pool.node ∨ pool.size ≤ buffer.index ∨ pool.allocated = 0) :
    pool.release buffer = pool := if_pos ignored

/-- A buffer of the pool that comes back is listed as free, whether or not it was out. -/
theorem free_release (named : buffer.node = pool.node) (inside : buffer.index < pool.size)
    (someOut : pool.allocated ≠ 0) (room : pool.free.length < max pool.size 1) :
    (pool.release buffer).free = pool.free ++ [buffer.index] := by
  rw [release_of_accepted named inside someOut room]

/-- The pool lists no buffer as free twice, and the one it gives out next is not out. -/
structure Exclusive (pool : Pool) (out : Multiset Nat) : Prop where
  once : pool.free.Nodup
  notOut : ∀ {buffer rest}, pool.alloc = (some buffer, rest) → buffer.index ∉ out

/-- A buffer of the pool comes back that is not out, while others are. -/
structure Stray (pool : Pool) (out : Multiset Nat) (buffer : Buffer) : Prop where
  named : buffer.node = pool.node
  inside : buffer.index < pool.size
  notOut : buffer.index ∉ out
  othersOut : pool.allocated ≠ 0

namespace Lends

variable {out : Multiset Nat}

theorem exclusive (lends : pool.Lends out) (small : pool.size ≤ wordSize32) :
    pool.Exclusive out := by
  have whole := Multiset.nodup_range pool.size
  rw [← indicesOf_of_small small, ← lends.partition, Multiset.nodup_add] at whole
  obtain ⟨once, -, apart⟩ := whole
  refine ⟨Multiset.coe_nodup.1 once, ?_⟩
  intro buffer rest given isOut
  cases next : pool.free with
  | nil =>
      rw [alloc_of_empty next] at given
      cases given
  | cons index others =>
      rw [alloc_of_free next] at given
      cases given
      have isFree : index ∈ (pool.free : Multiset Nat) := by
        rw [next]
        exact Multiset.mem_coe.2 List.mem_cons_self
      exact Multiset.disjoint_left.1 apart isFree isOut

/-- A buffer that comes back without being out changes nothing, if it is not stray. -/
theorem release_of_notOut (notStray : ¬pool.Stray out buffer)
    (notOut : buffer.node = pool.node → buffer.index ∉ out) : pool.release buffer = pool := by
  apply release_of_ignored
  by_cases named : buffer.node = pool.node
  · by_cases inside : buffer.index < pool.size
    · by_cases noneOut : pool.allocated = 0
      · exact .inr (.inr noneOut)
      · exact absurd ⟨named, inside, notOut named, noneOut⟩ notStray
    · exact .inr (.inl (Nat.not_lt.1 inside))
  · exact .inl named

/-- A stray buffer is listed as free a second time. -/
theorem not_nodup_of_stray (lends : pool.Lends out) (small : pool.size ≤ wordSize32)
    (stray : pool.Stray out buffer) : ¬(pool.release buffer).free.Nodup := by
  have isFree : buffer.index ∈ pool.free := by
    have inside := Multiset.mem_range.2 stray.inside
    rw [← indicesOf_of_small small, ← lends.partition] at inside
    exact (Multiset.mem_add.1 inside).resolve_right stray.notOut
  have room : pool.free.length < max pool.size 1 := by
    have whole := congrArg Multiset.card lends.partition
    rw [Multiset.card_add, Multiset.coe_card, card_indicesOf, ← lends.counted] at whole
    have someOut := stray.othersOut
    omega
  rw [free_release stray.named stray.inside stray.othersOut room]
  intro once
  exact (List.nodup_append.1 once).2.2 buffer.index isFree buffer.index
    (List.mem_singleton_self _) rfl

end Lends

/-- A new pool with more buffers than there are words lists the first index twice. -/
theorem not_nodup_full (node : NodeId) {size : Nat} (large : wordSize32 < size)
    (bufferSize : Nat) : ¬(full node size bufferSize).free.Nodup := by
  intro once
  have first : 0 ∈ List.range size := List.mem_range.2 (Nat.lt_of_le_of_lt (Nat.zero_le _) large)
  have again : wordSize32 ∈ List.range size := List.mem_range.2 large
  have same : 0 = wordSize32 := List.inj_on_of_nodup_map once first again (by decide)
  exact absurd same (by decide)

end Pool

/-! ## Calls on one pool -/

/-- A call on a pool. -/
inductive PoolCall where
  | alloc
  | release (buffer : Buffer)

/-- A pool beside the indices of its buffers that were given out and have not come back since. -/
structure Custody where
  pool : Pool
  out : Finset Nat := ∅

namespace Custody

variable {custody : Custody} {buffer : Buffer}

/-- A new pool: nothing is out. -/
def full (node : NodeId) (size bufferSize : Nat) : Custody where
  pool := .full node size bufferSize

/-- The pool has been asked for a buffer. -/
def alloc (custody : Custody) : Custody :=
  match custody.pool.alloc with
  | (none, pool) => { custody with pool }
  | (some buffer, pool) => { pool, out := insert buffer.index custody.out }

/-- The pool after a call, and what is out then. -/
def step (custody : Custody) : PoolCall → Custody
  | .alloc => custody.alloc
  | .release buffer =>
      { pool := custody.pool.release buffer
        out := if buffer.node = custody.pool.node then custody.out.erase buffer.index
          else custody.out }

/-- The pool after some calls, and what is out then. -/
def run (custody : Custody) (calls : List PoolCall) : Custody := calls.foldl step custody

/-- What the pool takes for out is out, and its buffers are told apart by their indices. -/
structure Sound (custody : Custody) : Prop where
  lends : custody.pool.Lends custody.out.val
  small : custody.pool.size ≤ wordSize32

/-- The pool lists no buffer as free twice, and gives out none that is out. -/
def Exclusive (custody : Custody) : Prop := custody.pool.Exclusive custody.out.val

/-- A stray buffer comes back with the call. -/
def Strays (custody : Custody) : PoolCall → Prop
  | .alloc => False
  | .release buffer => custody.pool.Stray custody.out.val buffer

theorem Sound.alloc (sound : custody.Sound) : custody.alloc.Sound := by
  obtain ⟨lends, small⟩ := sound
  unfold Custody.alloc
  cases next : custody.pool.free with
  | nil =>
      rw [Pool.alloc_of_empty next]
      exact ⟨lends, small⟩
  | cons index rest =>
      have notOut : index ∉ custody.out :=
        (lends.exclusive small).notOut (Pool.alloc_of_free next)
      rw [Pool.alloc_of_free next]
      refine ⟨?_, small⟩
      show (custody.pool.lend rest).Lends (insert index custody.out).val
      rw [Finset.insert_val_of_notMem notOut]
      exact lends.lend next

theorem Sound.release (sound : custody.Sound)
    (notStray : ¬custody.pool.Stray custody.out.val buffer) :
    (custody.step (.release buffer)).Sound := by
  obtain ⟨lends, small⟩ := sound
  refine ⟨?_, (custody.pool.size_release buffer).trans_le small⟩
  show (custody.pool.release buffer).Lends (if _ then _ else _ : Finset Nat).val
  by_cases named : buffer.node = custody.pool.node
  · rw [if_pos named]
    by_cases isOut : buffer.index ∈ custody.out
    · have split : custody.out.val = buffer.index ::ₘ (custody.out.erase buffer.index).val :=
        (Multiset.cons_erase isOut).symm
      have returned : buffer = { node := custody.pool.node, index := buffer.index } := by
        rw [← named]
      rw [split] at lends
      rw [returned]
      exact lends.release
    · rw [Finset.erase_eq_of_notMem isOut,
        Pool.Lends.release_of_notOut notStray fun _ => isOut]
      exact lends
  · rw [if_neg named, Pool.Lends.release_of_notOut notStray fun same => absurd same named]
    exact lends

/-- A pool stays exclusive exactly as long as no stray buffer comes back, provided that the indices
of its buffers differ. -/
theorem exclusive_run_iff (node : NodeId) (size bufferSize : Nat) (calls : List PoolCall) :
    (∀ earlier, earlier <+: calls → ((full node size bufferSize).run earlier).Exclusive) ↔
      size ≤ wordSize32 ∧ ∀ earlier call, earlier ++ [call] <+: calls →
        ¬((full node size bufferSize).run earlier).Strays call := by
  by_cases small : size ≤ wordSize32
  · rw [and_iff_right small]
    have startSound : (full node size bufferSize).Sound :=
      ⟨Pool.Lends.full node size bufferSize, small⟩
    refine holds_throughout_iff ?_ ?_ ?_ startSound calls
    · exact fun sound => sound.lends.exclusive sound.small
    · intro custody call sound notStray
      cases call with
      | alloc => exact sound.alloc
      | release buffer => exact sound.release notStray
    · intro custody call sound stray exclusive
      cases call with
      | alloc => exact stray
      | release buffer =>
          exact sound.lends.not_nodup_of_stray sound.small stray exclusive.once
  · apply iff_of_false
    · intro throughout
      have once := (throughout [] (List.nil_prefix)).once
      exact Pool.not_nodup_full node (Nat.not_le.1 small) bufferSize once
    · exact fun both => small both.1

end Custody

/-! ## Calls on all pools -/

theorem mem_indices {node : NodeId} {index : Nat} {buffers : Multiset Buffer} :
    index ∈ indices node buffers ↔ { node, index } ∈ buffers := by
  unfold indices
  rw [Multiset.mem_map]
  constructor
  · rintro ⟨buffer, member, rfl⟩
    obtain ⟨present, rfl⟩ := Multiset.mem_filter.1 member
    exact present
  · intro member
    exact ⟨_, Multiset.mem_filter.2 ⟨member, rfl⟩, rfl⟩

namespace Pools

variable {pools : Pools} {nodes size : Nat} {out : Finset Buffer} {buffer : Buffer}

/-- No pool lists a buffer as free twice, and no buffer that is out is given out. -/
structure Exclusive (pools : Pools) (out : Finset Buffer) : Prop where
  once : ∀ {node pool}, pools.pool? node = some pool → pool.free.Nodup
  notOut : ∀ {node buffer rest}, pools.alloc node = (.ok buffer, rest) → buffer ∉ out

/-- A buffer of a pool comes back that is not out, while others of this pool are. -/
structure Stray (pools : Pools) (out : Finset Buffer) (buffer : Buffer) : Prop where
  inside : ∃ pool, pools.pool? buffer.node = some pool ∧ buffer.index < pool.size ∧
    pool.allocated ≠ 0
  notOut : buffer ∉ out

namespace Lend

theorem exclusive (lend : Lend nodes size pools out.val) (small : size ≤ wordSize32) :
    pools.Exclusive out where
  once := by
    intro node pool found
    obtain ⟨-, sized, lends⟩ := lend.each found
    exact (lends.exclusive (sized.trans_le small)).once
  notOut := by
    intro node buffer rest given isOut
    cases found : pools.pool? node with
    | none =>
        rw [alloc_of_absent found] at given
        cases given
    | some pool =>
        obtain ⟨named, sized, lends⟩ := lend.each found
        cases next : pool.free with
        | nil =>
            rw [alloc_of_exhausted found next] at given
            cases given
        | cons index others =>
            rw [alloc_of_free found next] at given
            cases given
            rw [named] at isOut
            have exclusive := lends.exclusive (sized.trans_le small)
            exact exclusive.notOut (Pool.alloc_of_free next) (mem_indices.2 isOut)

/-- A buffer of one pool is stray for this pool. -/
theorem stray_at (lend : Lend nodes size pools out.val) {pool : Pool}
    (found : pools.pool? buffer.node = some pool) (inside : buffer.index < pool.size)
    (othersOut : pool.allocated ≠ 0) (notOut : buffer ∉ out) :
    pool.Stray (indices buffer.node out.val) buffer where
  named := (lend.each found).1.symm
  inside := inside
  notOut := fun listed => notOut (mem_indices.1 listed)
  othersOut := othersOut

/-- A buffer that comes back without being out changes nothing, if it is not stray. -/
theorem release_of_notOut (notStray : ¬pools.Stray out buffer) (notOut : buffer ∉ out) :
    pools.release buffer = pools := by
  suffices same : (pools.release buffer).pools = pools.pools from congrArg Pools.mk same
  apply List.ext_getElem?
  intro node
  show (pools.release buffer).pool? node = pools.pool? node
  rw [pool?_release]
  split
  · rename_i same
    rw [same]
    cases found : pools.pool? buffer.node with
    | none => rfl
    | some pool =>
        have notStrayThere : ¬pool.Stray (indices buffer.node out.val) buffer := fun stray =>
          notStray ⟨⟨pool, found, stray.inside, stray.othersOut⟩, notOut⟩
        rw [Option.map_some, Pool.Lends.release_of_notOut notStrayThere]
        exact fun _ listed => notOut (mem_indices.1 listed)
  · rfl

/-- A stray buffer is listed as free a second time. -/
theorem not_exclusive_of_stray (lend : Lend nodes size pools out.val)
    (small : size ≤ wordSize32) (stray : pools.Stray out buffer) (later : Finset Buffer) :
    ¬(pools.release buffer).Exclusive later := by
  intro exclusive
  obtain ⟨⟨pool, found, inside, othersOut⟩, notOut⟩ := stray
  obtain ⟨-, sized, lends⟩ := lend.each found
  have changed : (pools.release buffer).pool? buffer.node = some (pool.release buffer) := by
    rw [pool?_release, if_pos rfl, found, Option.map_some]
  have stray := lend.stray_at found inside othersOut notOut
  exact lends.not_nodup_of_stray (sized.trans_le small) stray (exclusive.once changed)

end Lend

end Pools

/-- A call on the pools of all nodes. -/
inductive PoolsCall where
  | alloc (node : NodeId)
  | release (buffer : Buffer)

/-- The pools of all nodes beside the buffers that were given out and have not come back since. -/
structure PoolsCustody where
  pools : Pools
  out : Finset Buffer := ∅

namespace PoolsCustody

variable {custody : PoolsCustody} {nodes size : Nat} {buffer : Buffer}

/-- New pools: nothing is out. -/
def full (nodes perNode bufferSize : Nat) : PoolsCustody where
  pools := .full nodes perNode bufferSize

/-- The pools have been asked for a buffer of a node. -/
def alloc (custody : PoolsCustody) (node : NodeId) : PoolsCustody :=
  match custody.pools.alloc node with
  | (.error _, pools) => { custody with pools }
  | (.ok buffer, pools) => { pools, out := insert buffer custody.out }

/-- The pools after a call, and what is out then. -/
def step (custody : PoolsCustody) : PoolsCall → PoolsCustody
  | .alloc node => custody.alloc node
  | .release buffer =>
      { pools := custody.pools.release buffer, out := custody.out.erase buffer }

/-- The pools after some calls, and what is out then. -/
def run (custody : PoolsCustody) (calls : List PoolsCall) : PoolsCustody := calls.foldl step custody

/-- What the pools take for out is out. -/
def Sound (nodes size : Nat) (custody : PoolsCustody) : Prop :=
  Pools.Lend nodes size custody.pools custody.out.val

/-- No pool lists a buffer as free twice, and none that is out is given out. -/
def Exclusive (custody : PoolsCustody) : Prop := custody.pools.Exclusive custody.out

/-- A stray buffer comes back with the call. -/
def Strays (custody : PoolsCustody) : PoolsCall → Prop
  | .alloc _ => False
  | .release buffer => custody.pools.Stray custody.out buffer

theorem Sound.alloc (sound : custody.Sound nodes size) (small : size ≤ wordSize32)
    (node : NodeId) : (custody.alloc node).Sound nodes size := by
  have lend : Pools.Lend nodes size custody.pools custody.out.val := sound
  unfold PoolsCustody.alloc
  rcases lend.alloc node with ⟨error, refused⟩ | ⟨buffer, rest, given, -, lent⟩
  · rw [refused]
    exact sound
  · have notOut : buffer ∉ custody.out := (lend.exclusive small).notOut given
    rw [given]
    show Pools.Lend nodes size rest (insert buffer custody.out).val
    rw [Finset.insert_val_of_notMem notOut]
    exact lent

theorem Sound.release (sound : custody.Sound nodes size)
    (notStray : ¬custody.pools.Stray custody.out buffer) :
    (custody.step (.release buffer)).Sound nodes size := by
  have lend : Pools.Lend nodes size custody.pools custody.out.val := sound
  show Pools.Lend nodes size (custody.pools.release buffer) (custody.out.erase buffer).val
  by_cases isOut : buffer ∈ custody.out
  · have split : custody.out.val = buffer ::ₘ (custody.out.erase buffer).val :=
      (Multiset.cons_erase isOut).symm
    rw [split] at lend
    exact lend.release
  · rw [Finset.erase_eq_of_notMem isOut, Pools.Lend.release_of_notOut notStray isOut]
    exact lend

/-- Pools stay exclusive exactly as long as no stray buffer comes back, provided that the indices of
their buffers differ. -/
theorem exclusive_run_iff (nodes perNode bufferSize : Nat) (calls : List PoolsCall) :
    (∀ earlier, earlier <+: calls → ((full nodes perNode bufferSize).run earlier).Exclusive) ↔
      perNode ≤ wordSize32 ∧ ∀ earlier call, earlier ++ [call] <+: calls →
        ¬((full nodes perNode bufferSize).run earlier).Strays call := by
  by_cases small : perNode ≤ wordSize32
  · rw [and_iff_right small]
    have startSound : (full nodes perNode bufferSize).Sound (max nodes 1) perNode :=
      Pools.Lend.full nodes perNode bufferSize
    refine holds_throughout_iff ?_ ?_ ?_ startSound calls
    · exact fun sound => Pools.Lend.exclusive sound small
    · intro custody call sound notStray
      cases call with
      | alloc node => exact sound.alloc small node
      | release buffer => exact sound.release notStray
    · intro custody call sound stray exclusive
      cases call with
      | alloc node => exact stray
      | release buffer =>
          exact Pools.Lend.not_exclusive_of_stray sound small stray _ exclusive
  · apply iff_of_false
    · intro throughout
      have first : (full nodes perNode bufferSize).pools.pool? 0 =
          some (.full 0 perNode bufferSize) := by
        have some : 0 < max nodes 1 := Nat.lt_of_lt_of_le Nat.zero_lt_one (Nat.le_max_right _ _)
        show ((List.range _).map _)[0]? = _
        rw [List.getElem?_map, List.getElem?_range some]
        rfl
      have once := (throughout [] (List.nil_prefix)).once first
      exact Pool.not_nodup_full 0 (Nat.not_le.1 small) bufferSize once
    · exact fun both => small both.1

end PoolsCustody

/-! ## Both -/

/-- Whatever is called on a pool, or on the pools of all nodes, and in whatever order: they have
stayed exclusive exactly when the indices of their buffers differ and no stray buffer has come back.
A buffer that comes back twice does no harm only while no other buffer of its pool is out. -/
theorem exclusive_until_stray (node : NodeId) (nodes size bufferSize : Nat)
    (calls : List PoolCall) (poolsCalls : List PoolsCall) :
    ((∀ earlier, earlier <+: calls →
          ((Custody.full node size bufferSize).run earlier).Exclusive) ↔
        size ≤ wordSize32 ∧ ∀ earlier call, earlier ++ [call] <+: calls →
          ¬((Custody.full node size bufferSize).run earlier).Strays call) ∧
      ((∀ earlier, earlier <+: poolsCalls →
          ((PoolsCustody.full nodes size bufferSize).run earlier).Exclusive) ↔
        size ≤ wordSize32 ∧ ∀ earlier call, earlier ++ [call] <+: poolsCalls →
          ¬((PoolsCustody.full nodes size bufferSize).run earlier).Strays call) :=
  ⟨Custody.exclusive_run_iff node size bufferSize calls,
    PoolsCustody.exclusive_run_iff nodes size bufferSize poolsCalls⟩

/-- Of two buffers that are out one comes back twice: it is listed as free twice, and the second
time it is given out it is out already. -/
theorem lent_twice_after_second_return :
    let calls : List PoolCall := [.alloc, .alloc, .release { node := 0, index := 0 },
      .release { node := 0, index := 0 }]
    let custody := (Custody.full 0 2 2048).run calls
    custody.pool.free = [0, 0] ∧ ¬custody.Exclusive ∧
      0 ∈ custody.alloc.out ∧ custody.alloc.pool.alloc.1 = some { node := 0, index := 0 } := by
  intro calls custody
  have listed : custody.pool.free = [0, 0] := by decide
  refine ⟨listed, ?_, by decide, by decide⟩
  intro exclusive
  have once := exclusive.once
  rw [listed] at once
  exact absurd once (by decide)

end FlowSteer
