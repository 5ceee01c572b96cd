import Mathlib.Data.List.Perm.Subperm
import FlowSteer.Proofs.Registry.Moves

/-!
# Choosing a queue for a flow

Queue ids are slots of an array, of which some may be free. A flow without an owner is steered to
the first queue in service that is met slot by slot, starting where the flow id points to modulo
the number of queues, and going on with the first slot after the last (`Registry.Steers`).

1. `Registry.slotAfter_stepsTo`, `Registry.stepsTo_slotAfter`: going around meets every slot once,
   and tells how many steps away it is.
2. `Registry.steer_eq_iff`: looking through the registered queues in cyclic order, as `steer` does,
   comes to the same.
3. `Registry.Fits`: queue ids lie within the slots, and all tables have the same limit; every
   operation keeps this.
4. `Registry.recorded_of_takes`: the queue that is chosen takes in the flow unless its table is
   full.
-/

namespace FlowSteer

namespace Registry

/-- Is a queue in service registered under the id. -/
def Serves (registry : Registry) (id : QueueId) : Prop :=
  ∃ queue, registry.queues.get? id = some queue ∧ queue.isFailed = false

/-- Has the table of a queue reached the limit on new flows. -/
def TableFull (registry : Registry) (id : QueueId) : Prop :=
  ∃ queue, registry.queues.get? id = some queue ∧ registry.maxFlows ≤ queue.flows.size

/-- The slot that some steps upward lead to, going on with the first slot after the last. -/
def slotAfter (registry : Registry) (start steps : Nat) : QueueId :=
  (start + steps) % registry.capacity

/-- Outcome of steering a flow, slot by slot. -/
inductive Steers (registry : Registry) (flow : FlowId) : Except ControlError QueueId → Prop
  /-- The owner of the flow, whatever its status. -/
  | owned {owner : QueueId} : registry.ownerOf flow = some owner → Steers registry flow (.ok owner)
  /-- The first slot with a queue in service. -/
  | first {steps : Nat} : registry.ownerOf flow = none → steps < registry.capacity →
      registry.Serves (registry.slotAfter (flow % registry.size) steps) →
      (∀ fewer, fewer < steps →
        ¬registry.Serves (registry.slotAfter (flow % registry.size) fewer)) →
      Steers registry flow (.ok (registry.slotAfter (flow % registry.size) steps))
  /-- There are queues, but none in service. -/
  | allFailed : registry.ownerOf flow = none → registry.isEmpty = false →
      (∀ id, ¬registry.Serves id) → Steers registry flow (.error (.outOfService (flow % registry.size)))
  | noQueues : registry.ownerOf flow = none → registry.isEmpty = true →
      Steers registry flow (.error (.noSuchQueue 0))

/-- Queue ids lie within the slots, and all tables have the limit of the registry. -/
structure Fits (registry : Registry) : Prop where
  within : ∀ {id queue}, registry.queues.get? id = some queue → id < registry.capacity
  limit : ∀ {id queue}, registry.queues.get? id = some queue →
    queue.flows.capacity = registry.maxFlows

variable {registry before after : Registry} {flow : FlowId} {id start steps : Nat}

/-! ## Going around -/

/-- Number of steps upward from one slot to another. -/
def stepsTo (registry : Registry) (start id : Nat) : Nat :=
  if start ≤ id then id - start else registry.capacity - start + id

theorem stepsTo_lt (within : start < registry.capacity) (idWithin : id < registry.capacity) :
    registry.stepsTo start id < registry.capacity := by
  unfold stepsTo
  split <;> omega

/-- The steps to a slot lead there. -/
theorem slotAfter_stepsTo (within : start < registry.capacity) (idWithin : id < registry.capacity) :
    registry.slotAfter start (registry.stepsTo start id) = id := by
  unfold slotAfter stepsTo
  split
  · rename_i upward
    rw [Nat.add_sub_cancel' upward, Nat.mod_eq_of_lt idWithin]
  · have around : start + (registry.capacity - start + id) = registry.capacity + id := by omega
    rw [around, Nat.add_mod_left, Nat.mod_eq_of_lt idWithin]

/-- There is no shorter way. -/
theorem stepsTo_slotAfter (within : start < registry.capacity) (once : steps < registry.capacity) :
    registry.stepsTo start (registry.slotAfter start steps) = steps := by
  unfold slotAfter stepsTo
  by_cases upward : start + steps < registry.capacity
  · rw [Nat.mod_eq_of_lt upward, if_pos (Nat.le_add_right start steps), Nat.add_sub_cancel_left]
  · have around : (start + steps) % registry.capacity = start + steps - registry.capacity := by
      rw [Nat.mod_eq_sub_mod (Nat.le_of_not_lt upward), Nat.mod_eq_of_lt (by omega)]
    rw [around, if_neg (by omega)]
    omega

theorem mem_cycleFrom {entry : QueueId × Queue} :
    entry ∈ registry.cycleFrom start ↔ registry.queues.get? entry.1 = some entry.2 := by
  rw [IdMap.get?_eq_some_iff]
  unfold cycleFrom
  simp only [List.mem_append, List.mem_filter, decide_eq_true_eq, ← and_or_left]
  exact and_iff_left (Nat.lt_or_ge entry.1 start).symm

/-- The cyclic order of the queues is the order in which their slots are met. -/
theorem pairwise_cycleFrom (fits : registry.Fits) (within : start < registry.capacity) :
    (registry.cycleFrom start).Pairwise fun earlier later =>
      registry.stepsTo start earlier.1 < registry.stepsTo start later.1 := by
  have ascending : registry.queues.toList.Pairwise fun earlier later => earlier.1 < later.1 :=
    registry.queues.ascending
  refine List.pairwise_append.2 ⟨?_, ?_, ?_⟩
  · refine (ascending.filter _).imp_of_mem ?_
    intro earlier later member _ below
    have upward : start ≤ earlier.1 := of_decide_eq_true (List.mem_filter.1 member).2
    unfold stepsTo
    rw [if_pos upward, if_pos (by omega)]
    omega
  · refine (ascending.filter _).imp_of_mem ?_
    intro earlier later _ member below
    have downward : later.1 < start := of_decide_eq_true (List.mem_filter.1 member).2
    unfold stepsTo
    rw [if_neg (by omega), if_neg (by omega)]
    omega
  · intro earlier upper later lower
    have upward : start ≤ earlier.1 := of_decide_eq_true (List.mem_filter.1 upper).2
    have downward : later.1 < start := of_decide_eq_true (List.mem_filter.1 lower).2
    have bounded := fits.within (IdMap.get?_eq_some_iff.2 (List.mem_filter.1 upper).1)
    unfold stepsTo
    rw [if_pos upward, if_neg (Nat.not_le.2 downward)]
    omega

/-- There are no more queues than slots. -/
theorem Fits.size_le (fits : registry.Fits) : registry.size ≤ registry.capacity := by
  have slots : registry.queues.ids ⊆ List.range registry.capacity := by
    intro id member
    obtain ⟨queue, found⟩ := Option.isSome_iff_exists.1 (IdMap.contains_iff.2 member)
    exact List.mem_range.2 (fits.within found)
  have shorter := (registry.queues.ids_nodup.subperm slots).length_le
  rw [List.length_range, IdMap.ids, List.length_map] at shorter
  exact shorter

/-! ## Steering -/

theorem isEmpty_iff : registry.isEmpty = true ↔ ∀ id, registry.queues.get? id = none := by
  have listed : registry.isEmpty = registry.queues.toList.isEmpty := rfl
  rw [listed, List.isEmpty_iff, List.eq_nil_iff_forall_not_mem]
  constructor
  · intro none id
    rw [Option.eq_none_iff_forall_ne_some]
    exact fun queue found => none (id, queue) (IdMap.get?_eq_some_iff.1 found)
  · intro absent entry member
    rw [← IdMap.get?_eq_some_iff, absent] at member
    cases member

theorem not_serves_of_isEmpty (empty : registry.isEmpty = true) (id : QueueId) :
    ¬registry.Serves id := by
  rintro ⟨queue, found, -⟩
  rw [isEmpty_iff.1 empty] at found
  cases found

/-- Steering has one outcome. -/
theorem Steers.unique {first second : Except ControlError QueueId}
    (one : registry.Steers flow first) (another : registry.Steers flow second) :
    first = second := by
  cases one with
  | owned owned =>
      cases another with
      | owned again =>
          rw [owned, Option.some.injEq] at again
          rw [again]
      | first unowned => cases owned.symm.trans unowned
      | allFailed unowned => cases owned.symm.trans unowned
      | noQueues unowned => cases owned.symm.trans unowned
  | @first steps unowned _ serves none =>
      cases another with
      | owned owned => cases owned.symm.trans unowned
      | @first others _ _ servesAfter noneBefore =>
          rcases Nat.lt_trichotomy steps others with fewer | same | more
          · exact absurd serves (noneBefore steps fewer)
          · rw [same]
          · exact absurd servesAfter (none others more)
      | allFailed _ _ noneAtAll => exact absurd serves (noneAtAll _)
      | noQueues _ empty => exact absurd serves (not_serves_of_isEmpty empty _)
  | allFailed unowned present none =>
      cases another with
      | owned owned => cases owned.symm.trans unowned
      | first _ _ serves => exact absurd serves (none _)
      | allFailed => rfl
      | noQueues _ empty => cases present.symm.trans empty
  | noQueues unowned empty =>
      cases another with
      | owned owned => cases owned.symm.trans unowned
      | first _ _ serves => exact absurd serves (not_serves_of_isEmpty empty _)
      | allFailed _ present => cases present.symm.trans empty
      | noQueues => rfl

/-- The first queue in service in cyclic order is in the first slot with one. -/
theorem Fits.steers_first (fits : registry.Fits) (unowned : registry.ownerOf flow = none)
    (present : registry.isEmpty = false) {entry : QueueId × Queue}
    (found : (registry.cycleFrom (flow % registry.size)).find? (!·.2.isFailed) = some entry) :
    registry.Steers flow (.ok entry.1) := by
  have within : flow % registry.size < registry.capacity := by
    have some : 0 < registry.size := by
      rw [size, IdMap.size, List.length_pos_iff, ne_eq, ← List.isEmpty_iff]
      exact Bool.eq_false_iff.1 present
    exact Nat.lt_of_lt_of_le (Nat.mod_lt flow some) fits.size_le
  obtain ⟨serving, skipped, rest, split, failed⟩ := List.find?_eq_some_iff_append.1 found
  have registered : registry.queues.get? entry.1 = some entry.2 := mem_cycleFrom.1 <| by
    rw [split]
    exact List.mem_append_right skipped List.mem_cons_self
  have inOrder := pairwise_cycleFrom fits within
  rw [split, List.pairwise_append, List.pairwise_cons] at inOrder
  have idWithin := fits.within registered
  rw [← slotAfter_stepsTo within idWithin]
  refine .first unowned (stepsTo_lt within idWithin) ?_ ?_
  · rw [slotAfter_stepsTo within idWithin]
    exact ⟨entry.2, registered, Bool.not_eq_true' _ ▸ serving⟩
  · rintro fewer less ⟨queue, inSlot, inService⟩
    have once := Nat.lt_trans less (stepsTo_lt within idWithin)
    -- A queue that was skipped is failed, and one that comes later is more steps away.
    have member : (registry.slotAfter (flow % registry.size) fewer, queue) ∈
        registry.cycleFrom (flow % registry.size) := mem_cycleFrom.2 inSlot
    rw [split, List.mem_append, List.mem_cons] at member
    rcases member with before | same | later
    · have isFailed := failed _ before
      rw [inService] at isFailed
      cases isFailed
    · rw [← same, stepsTo_slotAfter within once] at less
      exact Nat.lt_irrefl _ less
    · have further := inOrder.2.1.1 _ later
      rw [stepsTo_slotAfter within once] at further
      exact Nat.lt_asymm less further

theorem Fits.steers_steer (fits : registry.Fits) (flow : FlowId) :
    registry.Steers flow (registry.steer flow) := by
  unfold steer
  cases owned : registry.ownerOf flow with
  | some owner => exact .owned owned
  | none =>
      simp only []
      cases present : registry.isEmpty with
      | true => exact .noQueues owned present
      | false =>
          rw [if_neg Bool.false_ne_true]
          cases found : (registry.cycleFrom (flow % registry.size)).find? (!·.2.isFailed) with
          | some entry => exact fits.steers_first owned present found
          | none =>
              refine .allFailed owned present ?_
              rintro id ⟨queue, registered, inService⟩
              have member : (id, queue) ∈ registry.cycleFrom (flow % registry.size) :=
                mem_cycleFrom.2 registered
              have isFailed := List.find?_eq_none.1 found _ member
              rw [inService] at isFailed
              exact isFailed rfl

/-- Looking through the queues in cyclic order comes to the same as going slot by slot. -/
theorem Fits.steer_eq_iff (fits : registry.Fits) {outcome : Except ControlError QueueId} :
    registry.steer flow = outcome ↔ registry.Steers flow outcome := by
  constructor
  · rintro rfl
    exact fits.steers_steer flow
  · exact (fits.steers_steer flow).unique

/-! ## What operations keep -/

namespace Fits

theorem of_keeps (fits : before.Fits) (same : Keeps (·.flows.capacity) before after)
    (capacity : after.capacity = before.capacity) (maxFlows : after.maxFlows = before.maxFlows) :
    after.Fits where
  within := by
    intro id queue found
    obtain ⟨old, present, -⟩ := same.of_after found
    rw [capacity]
    exact fits.within present
  limit := by
    intro id queue found
    obtain ⟨old, present, kept⟩ := same.of_after found
    rw [kept, maxFlows]
    exact fits.limit present

theorem empty (capacity maxFlows : Nat) : (Registry.empty capacity maxFlows).Fits where
  within := fun found => nomatch found
  limit := fun found => nomatch found

theorem register (fits : registry.Fits) (id : QueueId) (node : NodeId) :
    (registry.register id node).2.Fits := by
  by_cases tooLarge : registry.capacity ≤ id
  · unfold Registry.register
    rw [if_pos tooLarge]
    exact fits
  · rcases registry.register_cases id node with ⟨_, result⟩ | ⟨_, result⟩
    · rw [result]
      exact fits
    · rw [result]
      constructor
      · intro other queue found
        rw [get?_putQueue] at found
        split at found
        · rename_i same
          rw [same]
          exact Nat.lt_of_not_le tooLarge
        · exact fits.within found
      · intro other queue found
        rw [get?_putQueue] at found
        split at found
        · cases found
          rfl
        · exact fits.limit found

theorem adjust (fits : registry.Fits) {id : QueueId} {change : Queue → Queue}
    (result : after = registry.adjust id change)
    (same : ∀ queue, (change queue).flows = queue.flows) : after.Fits := by
  have limits : ∀ queue, (change queue).flows.capacity = queue.flows.capacity := by
    intro queue
    rw [same]
  rw [result]
  exact fits.of_keeps (keeps_adjust limits id) rfl rfl

theorem record (fits : registry.Fits) (id : QueueId) (flow : FlowId) (bytes : Nat)
    (direction : Direction) (now : Nat) :
    (registry.record id flow bytes direction now).2.Fits := by
  rcases record_cases registry id flow bytes direction now with
    ⟨_, result⟩ | ⟨queue, found, _, result⟩ | ⟨queue, found, _, _, _, _, result⟩
  · rw [result]
    exact fits
  · rw [result]
    exact fits.of_keeps (.putQueue found rfl) rfl rfl
  · rw [result]
    have same : Keeps (·.flows.capacity) registry (registry.putQueue id
        ((queue.takeIn flow now).addPacket flow bytes direction now)) := .putQueue found rfl
    exact fits.of_keeps same rfl rfl

theorem recordLatency (fits : registry.Fits) (flow : FlowId) (latency : Nat) :
    (registry.recordLatency flow latency).2.Fits := by
  rcases recordLatency_cases registry flow latency with ⟨_, result⟩ | ⟨_, _, _, found, _, result⟩
  · rw [result]
    exact fits
  · rw [result]
    exact fits.of_keeps (.putQueue found rfl) rfl rfl

theorem moveFlow (fits : registry.Fits) (flow : FlowId) (source target : QueueId) :
    (registry.moveFlow flow source target).2.Fits := by
  rcases moveFlow_cases registry flow source target with
    ⟨_, result⟩ | ⟨sourceQueue, targetQueue, moving, ends, _, _, result⟩
  · rw [result]
    exact fits
  · rw [result]
    have same : Keeps (·.flows.capacity) registry
        ((registry.putQueue source { sourceQueue with
          flows := sourceQueue.flows.erase flow }).putQueue target { targetQueue with
          flows := targetQueue.flows.put moving }) := keeps_ends ends rfl rfl
    exact fits.of_keeps same rfl rfl

theorem moveAll (fits : registry.Fits) (source target : QueueId) :
    (registry.moveAll source target).2.Fits := by
  rcases moveAll_cases registry source target with
    ⟨_, result⟩ | ⟨sourceQueue, targetQueue, ends, result⟩
  · rw [result]
    exact fits
  · rw [result]
    have limit := FlowTable.capacity_foldl_absorb sourceQueue.flows.entries targetQueue.flows
    have same : Keeps (·.flows.capacity) registry
        ((registry.putQueue source { sourceQueue with
          flows := sourceQueue.flows.clear }).putQueue target { targetQueue with
          flows := sourceQueue.flows.entries.foldl FlowTable.absorb targetQueue.flows }) :=
      keeps_ends ends rfl limit
    exact fits.of_keeps same rfl rfl

/-- Each operation keeps ids within the slots, and the limits of the tables. -/
theorem registryOp (fits : registry.Fits) (now : Nat) (op : RegistryOp) :
    (op.apply now registry).Fits := by
  cases op with
  | register id node => exact fits.register id node
  | record id flow bytes direction => exact fits.record id flow bytes direction now
  | recordLatency flow latency => exact fits.recordLatency flow latency
  | countError id direction => exact fits.adjust (updateQueue_snd registry id _) fun _ => rfl
  | countDrop id direction => exact fits.adjust (updateQueue_snd registry id _) fun _ => rfl
  | addWork id work => exact fits.adjust (updateQueue_snd registry id _) fun _ => rfl
  | finishWork id work => exact fits.adjust (finishWork_snd registry id work) fun _ => rfl
  | setStatus id status => exact fits.adjust (setStatus_snd registry id status) fun _ => rfl
  | clearErrors id status => exact fits.adjust (clearErrors_snd registry id status) fun _ => rfl
  | updateStatus id choose => exact fits.adjust (updateStatus_snd registry id choose) fun _ => rfl
  | moveFlow flow source target => exact fits.moveFlow flow source target
  | moveAll source target => exact fits.moveAll source target
  | forgetIdle time timeout =>
      refine fits.of_keeps (.map ?_ _) rfl rfl
      exact fun _ _ => rfl
  | forgetAll =>
      refine fits.of_keeps (.map ?_ _) rfl rfl
      exact fun _ _ => rfl
  | bindAll planner => exact fits.of_keeps (keeps_bind (fun _ _ => rfl) _) rfl rfl
  | rebalance planner => exact fits.of_keeps (keeps_bind (fun _ _ => rfl) _) rfl rfl

end Fits

/-! ## Recording on the queue that is chosen -/

/-- The queue owns the flow, or no queue does and it is in service. -/
def Takes (registry : Registry) (flow : FlowId) (id : QueueId) : Prop :=
  registry.ownerOf flow = some id ∨ registry.ownerOf flow = none ∧ registry.Serves id

theorem Steers.takes {id : QueueId} (steers : registry.Steers flow (.ok id)) :
    registry.Takes flow id := by
  cases steers with
  | owned owned => exact .inl owned
  | first unowned _ serves _ => exact .inr ⟨unowned, serves⟩

/-- What becomes of a packet of a flow on a queue that owns the flow or may take it in: the packet is
counted and the queue owns the flow, or the flow is new and the table is full. -/
theorem recorded_of_takes (own : Ownership registry) (fits : registry.Fits) {id : QueueId}
    (takes : registry.Takes flow id) (bytes : Nat) (direction : Direction) (now : Nat) :
    (∃ after, registry.record id flow bytes direction now = (.ok (), after) ∧
      after.ownerOf flow = some id) ∨
    registry.record id flow bytes direction now = (.error (.tableFull id), registry) ∧
      registry.ownerOf flow = none ∧ registry.TableFull id := by
  rcases takes with owned | ⟨unowned, queue, found, inService⟩
  · obtain ⟨queue, entry, found, kept⟩ := own.entry_of_owner owned
    have held : queue.flows.contains flow = true := FlowTable.contains_iff.2 ⟨entry, kept⟩
    exact .inl ⟨_, record_of_held found held, owned⟩
  · have absent : queue.flows.contains flow = false := by
      rw [← Bool.not_eq_true, own.held_iff found, unowned]
      exact nofun
    by_cases full : queue.flows.capacity ≤ queue.flows.size
    · have refused : registry.accept id queue flow bytes direction now = .error (.tableFull id) :=
        accept_of_full absent full
      refine .inr ⟨?_, unowned, queue, found, fits.limit found ▸ full⟩
      unfold record
      simp only [queue_of_get? found, absent, inService, unowned, refused, Bool.false_eq_true,
        if_false]
    · have accepted : registry.accept id queue flow bytes direction now =
          .ok (registry.putQueue id ((queue.takeIn flow now).addPacket flow bytes direction now)) :=
        accept_of_room absent (Nat.lt_of_not_le full)
      refine .inl ⟨{ registry.putQueue id
          ((queue.takeIn flow now).addPacket flow bytes direction now) with
        directory := registry.directory.insert flow id }, ?_, IdMap.get?_insert_self _ _ _⟩
      unfold record
      simp only [queue_of_get? found, absent, inService, unowned, accepted, Bool.false_eq_true,
        if_false]
      rfl

end Registry

end FlowSteer
