import Mathlib.Algebra.Notation.Pi.Basic
import Mathlib.Algebra.Ring.Nat
import FlowSteer.Proofs.Buffers.Rings
import FlowSteer.Proofs.Registry.Views

/-!
# Pending work and rings

The registry counts pending work, the device holds the descriptors. `Matches` says that the two
agree: the pending work of a queue is the number of descriptors in its ring, together with what
the queue is owed in the middle of an operation.

* `Matches.begin`, `Matches.submit`: work is counted first, then the ring takes the descriptors;
* `Matches.poll`, `Matches.finish`: completions leave the ring first, then work is taken off;
* `Matches.of_keeps`: nothing else in the registry matters.
-/

namespace FlowSteer

/-- What pending work depends on. -/
def Queue.work (queue : Queue) : NodeId × Nat := (queue.node, queue.pending)

theorem Queue.work_blindToTraffic : Queue.BlindToTraffic Queue.work := fun _ _ _ => rfl

theorem Queue.work_blindToHealth : Queue.BlindToHealth Queue.work := fun _ _ _ => rfl

theorem Queue.work_blindToCpu : Queue.BlindToCpu Queue.work := fun _ _ => rfl

namespace Registry

/-- Pending work and rings agree, apart from what queues are owed. -/
structure Matches (registry : Registry) (device : Device) (owed : QueueId → Nat) : Prop where
  pending : ∀ {id queue}, registry.queues.get? id = some queue →
    queue.pending = Multiset.card (device.ring id).buffers + owed id
  /-- A ring holds buffers of the node of its queue. -/
  homed : ∀ {id queue}, registry.queues.get? id = some queue →
    ∀ buffer ∈ (device.ring id).buffers, buffer.node = queue.node
  /-- A queue that is not there has an empty ring. -/
  idle : ∀ {id}, registry.queues.get? id = none → (device.ring id).buffers = 0

namespace Matches

variable {registry before after : Registry} {device : Device} {owed : QueueId → Nat}
  {id : QueueId} {queue : Queue}

theorem of_keeps (agree : Matches before device owed) (same : Keeps Queue.work before after) :
    Matches after device owed where
  pending := by
    intro id queue found
    obtain ⟨old, present, equal⟩ := same.of_after found
    rw [show queue.pending = old.pending from congrArg Prod.snd equal]
    exact agree.pending present
  homed := by
    intro id queue found
    obtain ⟨old, present, equal⟩ := same.of_after found
    rw [show queue.node = old.node from congrArg Prod.fst equal]
    exact agree.homed present
  idle := fun absent => agree.idle ((same.absent_iff _).1 absent)

theorem of_rings (agree : Matches registry device owed) {changed : Device}
    (same : ∀ id, (changed.ring id).buffers = (device.ring id).buffers) :
    Matches registry changed owed where
  pending := by
    intro id queue found
    rw [same]
    exact agree.pending found
  homed := by
    intro id queue found
    rw [same]
    exact agree.homed found
  idle := by
    intro id absent
    rw [same]
    exact agree.idle absent

/-- The pending work of one queue changes along with what the queue is owed. -/
theorem putQueue (agree : Matches registry device owed)
    (found : registry.queues.get? id = some queue) {changed : Queue} {owing : QueueId → Nat}
    (node : changed.node = queue.node)
    (balanced : changed.pending + owed id = queue.pending + owing id)
    (elsewhere : ∀ other, other ≠ id → owing other = owed other) :
    Matches (registry.putQueue id changed) device owing where
  pending := by
    intro other shown present
    rw [get?_putQueue] at present
    split at present
    · rename_i same
      cases present
      have counted := agree.pending found
      rw [same]
      omega
    · rename_i different
      rw [elsewhere other different]
      exact agree.pending present
  homed := by
    intro other shown present
    rw [get?_putQueue] at present
    split at present
    · rename_i same
      cases present
      rw [same, node]
      exact agree.homed found
    · exact agree.homed present
  idle := by
    intro other absent
    rw [get?_putQueue] at absent
    split at absent
    · cases absent
    · exact agree.idle absent

/-- Work is counted that the ring does not hold yet. -/
theorem begin (agree : Matches registry device 0) (found : registry.queues.get? id = some queue)
    {work : Nat} (fits : queue.pending + work < wordSize) :
    Matches (registry.addWork id work).2 device (Pi.single id work) := by
  rw [addWork, updateQueue_snd, adjust_of_get? found]
  apply agree.putQueue found
  · rfl
  · rw [Pi.single_eq_same]
    exact addWrapping_of_lt fits
  · intro other different
    rw [Pi.single_eq_of_ne different, Pi.zero_apply]

/-- Work is taken off that the ring does not hold any more; all of it is pending. -/
theorem finish {work : Nat} (agree : Matches registry device (Pi.single id work))
    (found : registry.queues.get? id = some queue) :
    ∃ left after, registry.finishWork id work = (.ok left, after) ∧ Matches after device 0 := by
  have counted := agree.pending found
  rw [Pi.single_eq_same] at counted
  have enough : work ≤ queue.pending := by omega
  refine ⟨_, _, finishWork_of_le found enough, ?_⟩
  apply agree.putQueue found
  · rfl
  · rw [Pi.single_eq_same]
    exact Nat.sub_add_cancel enough
  · intro other different
    rw [Pi.single_eq_of_ne different, Pi.zero_apply]

theorem submit {descriptors : List Descriptor}
    (agree : Matches registry device (Pi.single id descriptors.length))
    (found : registry.queues.get? id = some queue)
    (homed : ∀ buffer ∈ Descriptor.buffersOf descriptors, buffer.node = queue.node) :
    Matches registry (device.putRing id ((device.ring id).submit descriptors)) 0 where
  pending := by
    intro other shown present
    rw [agree.pending present, Device.ring_putRing]
    by_cases same : other = id
    · rw [if_pos same, Ring.buffers_submit, Multiset.card_add, Descriptor.card_buffersOf, same,
        Pi.single_eq_same]
      rfl
    · rw [if_neg same, Pi.single_eq_of_ne same]
      rfl
  homed := by
    intro other shown present buffer member
    rw [Device.ring_putRing] at member
    split at member
    · rename_i same
      rw [same, found] at present
      cases present
      rw [Ring.buffers_submit] at member
      rcases Multiset.mem_add.1 member with earlier | added
      · exact agree.homed found buffer earlier
      · exact homed buffer added
    · exact agree.homed present buffer member
  idle := by
    intro other absent
    rw [Device.ring_putRing, if_neg]
    · exact agree.idle absent
    · intro same
      rw [same, found] at absent
      cases absent

theorem poll (agree : Matches registry device 0) (id : QueueId) (budget : Nat) :
    Matches registry (device.poll id budget).2
      (Pi.single id (device.poll id budget).1.length) := by
  obtain ⟨completions, rings, -, -⟩ := device.poll_eq id budget
  have polled := (device.ring id).buffers_poll budget
  have rest : ∀ other, ((device.poll id budget).2.ring other).buffers ≤
      (device.ring other).buffers := by
    intro other
    rw [rings]
    split
    · rename_i same
      rw [same, ← polled]
      exact Multiset.le_add_left _ _
    · exact le_rfl
  constructor
  · intro other shown present
    rw [agree.pending present, rings]
    by_cases same : other = id
    · have counted := congrArg Multiset.card polled
      rw [Multiset.card_add, Completion.card_buffersOf] at counted
      rw [if_pos same, same, Pi.single_eq_same, completions, Pi.zero_apply]
      omega
    · rw [if_neg same, Pi.single_eq_of_ne same]
      rfl
  · intro other shown present buffer member
    exact agree.homed present buffer (Multiset.mem_of_le (rest other) member)
  · intro other absent
    have emptied := rest other
    rw [agree.idle absent] at emptied
    exact Multiset.le_zero.1 emptied

/-- A queue is registered without work, and its ring is empty. -/
theorem register (agree : Matches registry device 0) (id : QueueId) (node : NodeId) :
    Matches (registry.register id node).2 device 0 := by
  rcases registry.register_cases id node with ⟨_, result⟩ | ⟨missing, result⟩
  · rw [result]
    exact agree
  · rw [result]
    have empty := agree.idle missing
    constructor
    · intro other shown present
      rw [get?_putQueue] at present
      split at present
      · rename_i same
        cases present
        rw [same, empty]
        rfl
      · exact agree.pending present
    · intro other shown present
      rw [get?_putQueue] at present
      split at present
      · rename_i same
        rw [same, empty]
        exact fun buffer member => absurd member (Multiset.notMem_zero buffer)
      · exact agree.homed present
    · intro other stillAbsent
      rw [get?_putQueue] at stillAbsent
      split at stillAbsent
      · cases stillAbsent
      · exact agree.idle stillAbsent

/-- Operations on the registry that leave pending work to the packet path keep the agreement. -/
theorem registryOp (agree : Matches registry device 0) (now : Nat) (op : RegistryOp)
    (indirect : op.changesWork = false) : Matches (op.apply now registry) device 0 := by
  have traffic := Queue.work_blindToTraffic
  have flows := traffic.flows
  have health := Queue.work_blindToHealth
  cases op with
  | register id node => exact agree.register id node
  | record id flow bytes direction =>
      exact agree.of_keeps (keeps_record traffic id flow bytes direction now)
  | recordLatency flow latency => exact agree.of_keeps (keeps_recordLatency flows flow latency)
  | countError id direction => exact agree.of_keeps (keeps_countError traffic id direction)
  | countDrop id direction => exact agree.of_keeps (keeps_countDrop traffic id direction)
  | addWork id work => cases indirect
  | finishWork id work => cases indirect
  | setStatus id status => exact agree.of_keeps (keeps_setStatus health id status)
  | clearErrors id status => exact agree.of_keeps (keeps_clearErrors health id status)
  | updateStatus id choose => exact agree.of_keeps (keeps_updateStatus health id choose)
  | moveFlow flow source target => exact agree.of_keeps (keeps_moveFlow flows flow source target)
  | moveAll source target => exact agree.of_keeps (keeps_moveAll flows source target)
  | forgetIdle time timeout => exact agree.of_keeps (keeps_forgetIdle flows time timeout)
  | forgetAll => exact agree.of_keeps (keeps_forgetAll flows)
  | bindAll planner => exact agree.of_keeps (keeps_bind Queue.work_blindToCpu _)
  | rebalance planner => exact agree.of_keeps (keeps_bind Queue.work_blindToCpu _)

end Matches

end Registry

end FlowSteer
