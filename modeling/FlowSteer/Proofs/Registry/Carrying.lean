import Mathlib.Algebra.Group.Prod
import Mathlib.Algebra.Ring.Nat
import FlowSteer.Proofs.Registry.Effects
import FlowSteer.Proofs.Registry.Packets

/-!
# What is carried over

Only packets change how much traffic is counted. Every other operation on the registry

* carries entries over (`Carries`): each flow that is on a queue afterwards was on some queue
  before, with the same packets, bytes and dates; and
* leaves the packets and bytes of every queue as they are (`trafficOn`).

So a move loses nothing and counts nothing twice, and a flow that was forgotten starts anew.
-/

namespace FlowSteer

/-- The flow without what is known of its latency. -/
def Flow.withoutLatency (flow : Flow) : Flow := { flow with latencySum := 0, latencySamples := 0 }

/-- Packets and bytes of the queue in a direction. -/
def Queue.traffic (queue : Queue) (direction : Direction) : Nat × Nat :=
  (queue.counters.packets direction, queue.counters.bytes direction)

/-- Does the operation count no packets. -/
def RegistryOp.recordsNothing : RegistryOp → Bool
  | record .. => false
  | _ => true

namespace Registry

variable {registry before middle after : Registry}

/-- Every entry was there before, on the same queue or on another, but for its latency. -/
def Carries (before after : Registry) : Prop :=
  ∀ id flow entry, after.flow? id flow = some entry →
    ∃ source old, before.flow? source flow = some old ∧ entry.withoutLatency = old.withoutLatency

namespace Carries

theorem refl (registry : Registry) : Carries registry registry :=
  fun id _ entry found => ⟨id, entry, found, rfl⟩

theorem trans (first : Carries before middle) (second : Carries middle after) :
    Carries before after := by
  intro id flow entry found
  obtain ⟨middleId, middleEntry, kept, same⟩ := second id flow entry found
  obtain ⟨source, old, present, equal⟩ := first middleId flow middleEntry kept
  exact ⟨source, old, present, same.trans equal⟩

theorem of_keeps (same : Keeps Queue.flows before after) : Carries before after := by
  intro id flow entry found
  rw [flow?_of_keeps same] at found
  exact ⟨id, entry, found, rfl⟩

/-- One queue is changed, but not its table. -/
theorem adjust {id : QueueId} {change : Queue → Queue}
    (result : after = before.adjust id change)
    (same : ∀ queue, (change queue).flows = queue.flows) : Carries before after := by
  rw [result]
  exact of_keeps (keeps_adjust same id)

theorem register (registry : Registry) (id : QueueId) (node : NodeId) :
    Carries registry (registry.register id node).2 := by
  rcases registry.register_cases id node with ⟨_, result⟩ | ⟨_, result⟩
  · rw [result]
    exact .refl registry
  · rw [result]
    intro other flow entry found
    rw [flow?_putQueue] at found
    split at found
    · cases found
    · exact ⟨other, entry, found, rfl⟩

theorem recordLatency (registry : Registry) (flow : FlowId) (latency : Nat) :
    Carries registry (registry.recordLatency flow latency).2 := by
  rcases registry.recordLatency_cases flow latency with
    ⟨_, result⟩ | ⟨owner, queue, _, present, _, result⟩
  · rw [result]
    exact .refl registry
  · rw [result]
    intro other key entry found
    rw [flow?_putQueue] at found
    split at found
    · rename_i same
      subst same
      have shown := flow?_of_get? present key
      change (queue.flows.modify flow _).get? key = some entry at found
      rw [FlowTable.get?_modify] at found
      split at found
      · obtain ⟨old, kept, rfl⟩ := Option.map_eq_some_iff.1 found
        exact ⟨other, old, shown.trans kept, rfl⟩
      · exact ⟨other, entry, shown.trans found, rfl⟩
    · exact ⟨other, entry, found, rfl⟩

/-- Flows that are forgotten are gone, and the others are as they were. -/
theorem forget (registry : Registry) (change : FlowTable → FlowTable) (directory : IdMap QueueId)
    (shrinks : ∀ {table : FlowTable} {flow entry}, (change table).get? flow = some entry →
      table.get? flow = some entry) :
    Carries registry { registry with
      queues := registry.queues.map fun _ queue => { queue with flows := change queue.flows }
      directory } := by
  intro id flow entry found
  obtain ⟨queue, present, kept⟩ := Option.bind_eq_some_iff.1 found
  rw [IdMap.get?_map] at present
  obtain ⟨old, there, rfl⟩ := Option.map_eq_some_iff.1 present
  exact ⟨id, entry, (flow?_of_get? there flow).trans (shrinks kept), rfl⟩

end Carries

namespace Ownership

theorem carries_moveFlow (own : Ownership registry) (flow : FlowId) (source target : QueueId) :
    Carries registry (registry.moveFlow flow source target).2 := by
  rcases moveFlow_cases registry flow source target with
    ⟨_, result⟩ | ⟨sourceQueue, targetQueue, moving, ends, present, _, result⟩
  · rw [result]
    exact .refl registry
  · rw [result]
    obtain ⟨-, sourceFound, targetFound, -⟩ := moveEnds_eq_ok_iff.1 ends
    have named : moving.id = flow := own.stored_in sourceFound present
    intro id key entry found
    rw [flow?_ends] at found
    split at found
    · rw [FlowTable.get?_put] at found
      split at found
      · rename_i same
        cases found
        refine ⟨source, moving, ?_, rfl⟩
        rw [flow?_of_get? sourceFound, same, named, present]
      · exact ⟨target, entry, (flow?_of_get? targetFound key).trans found, rfl⟩
    · split at found
      · rw [FlowTable.get?_erase] at found
        split at found
        · cases found
        · exact ⟨source, entry, (flow?_of_get? sourceFound key).trans found, rfl⟩
      · exact ⟨id, entry, found, rfl⟩

theorem carries_moveAll (own : Ownership registry) (source target : QueueId) :
    Carries registry (registry.moveAll source target).2 := by
  rcases moveAll_cases registry source target with
    ⟨_, result⟩ | ⟨sourceQueue, targetQueue, ends, result⟩
  · rw [result]
    exact .refl registry
  · rw [result]
    obtain ⟨-, sourceFound, targetFound, -⟩ := moveEnds_eq_ok_iff.1 ends
    intro id key entry found
    rw [flow?_ends] at found
    split at found
    · rw [own.get?_absorbed ends, Option.or_eq_some_iff] at found
      rcases found with moved | ⟨-, kept⟩
      · exact ⟨source, entry, (flow?_of_get? sourceFound key).trans moved, rfl⟩
      · exact ⟨target, entry, (flow?_of_get? targetFound key).trans kept, rfl⟩
    · split at found
      · cases found
      · exact ⟨id, entry, found, rfl⟩

/-- Every operation but the counting of packets carries entries over. -/
theorem carries_registryOp (own : Ownership registry) (now : Nat) (op : RegistryOp)
    (nothing : op.recordsNothing = true) : Carries registry (op.apply now registry) := by
  cases op with
  | register id node => exact .register registry id node
  | record id flow size direction => cases nothing
  | recordLatency flow latency => exact .recordLatency registry flow latency
  | countError id direction => exact .adjust (updateQueue_snd registry id _) fun _ => rfl
  | countDrop id direction => exact .adjust (updateQueue_snd registry id _) fun _ => rfl
  | addWork id work => exact .adjust (updateQueue_snd registry id _) fun _ => rfl
  | finishWork id work => exact .adjust (finishWork_snd registry id work) fun _ => rfl
  | setStatus id status => exact .adjust (setStatus_snd registry id status) fun _ => rfl
  | clearErrors id status => exact .adjust (clearErrors_snd registry id status) fun _ => rfl
  | updateStatus id choose => exact .adjust (updateStatus_snd registry id choose) fun _ => rfl
  | moveFlow flow source target => exact own.carries_moveFlow flow source target
  | moveAll source target => exact own.carries_moveAll source target
  | forgetIdle time timeout =>
      apply Carries.forget registry (·.forgetIdle time timeout)
      intro table flow entry found
      rw [FlowTable.get?_forgetIdle] at found
      exact (Option.filter_eq_some_iff.1 found).1
  | forgetAll => exact .forget registry FlowTable.clear _ nofun
  | bindAll planner => exact .of_keeps (keeps_bind (fun _ _ => rfl) _)
  | rebalance planner => exact .of_keeps (keeps_bind (fun _ _ => rfl) _)

end Ownership

/-! ## Traffic of queues -/

/-- Packets and bytes of a queue in a direction, none for a queue that is not there. -/
def trafficOn (registry : Registry) (id : QueueId) (direction : Direction) : Nat × Nat :=
  ((registry.queues.get? id).map (·.traffic direction)).getD (0, 0)

theorem trafficOn_of_get? {id : QueueId} {queue : Queue}
    (found : registry.queues.get? id = some queue) (direction : Direction) :
    registry.trafficOn id direction = queue.traffic direction := by
  rw [trafficOn, found]
  rfl

theorem trafficOn_of_keeps {direction : Direction}
    (same : Keeps (·.traffic direction) before after) (id : QueueId) :
    after.trafficOn id direction = before.trafficOn id direction :=
  congrArg (·.getD (0, 0)) (same id)

/-- The traffic after a packet. -/
theorem CountsPacket.trafficOn_eq {id : QueueId} {flow : FlowId} {size : Nat}
    {direction : Direction} {now : Nat}
    (counts : CountsPacket before after id flow size direction now) (other : QueueId)
    (towards : Direction) :
    after.trafficOn other towards = before.trafficOn other towards +
      if other = id ∧ towards = direction then (1, size) else 0 := by
  obtain ⟨old, new, found, present, counted⟩ := counts.counted
  by_cases same : other = id
  · rw [same, trafficOn_of_get? present, trafficOn_of_get? found]
    by_cases equal : towards = direction
    · rw [if_pos ⟨rfl, equal⟩, equal]
      exact Prod.ext counted.counters.packets counted.counters.bytes
    · rw [if_neg fun both => equal both.2, add_zero]
      exact Prod.ext (counted.counters.otherPackets towards equal)
        (counted.counters.otherBytes towards equal)
  · rw [if_neg fun both => same both.1, add_zero, trafficOn, trafficOn,
      counts.otherQueues other same]

/-- A new queue has no traffic. -/
theorem trafficOn_register (registry : Registry) (other : QueueId) (node : NodeId) (id : QueueId)
    (direction : Direction) :
    (registry.register other node).2.trafficOn id direction = registry.trafficOn id direction := by
  rcases registry.register_cases other node with ⟨_, result⟩ | ⟨missing, result⟩
  · rw [result]
  · rw [result]
    unfold trafficOn
    rw [get?_putQueue]
    split
    · rename_i same
      rw [same, missing]
      cases direction <;> rfl
    · rfl

/-- Every operation but the counting of packets leaves the traffic of every queue as it is. -/
theorem trafficOn_registryOp (registry : Registry) (now : Nat) (op : RegistryOp)
    (nothing : op.recordsNothing = true) (id : QueueId) (direction : Direction) :
    (op.apply now registry).trafficOn id direction = registry.trafficOn id direction := by
  have flows : Queue.BlindToFlows (·.traffic direction) := fun _ _ => rfl
  have adjusted : ∀ {after : Registry} {other : QueueId} {change : Queue → Queue},
      after = registry.adjust other change →
      (∀ queue, (change queue).traffic direction = queue.traffic direction) →
      after.trafficOn id direction = registry.trafficOn id direction := by
    intro after other change result same
    rw [result]
    exact trafficOn_of_keeps (keeps_adjust same other) id
  cases op with
  | register other node => exact trafficOn_register registry other node id direction
  | record other flow size towards => cases nothing
  | recordLatency flow latency =>
      exact trafficOn_of_keeps (keeps_recordLatency flows flow latency) id
  | countError other towards =>
      refine adjusted (updateQueue_snd registry other _) fun _ => ?_
      cases towards <;> rfl
  | countDrop other towards =>
      refine adjusted (updateQueue_snd registry other _) fun _ => ?_
      cases towards <;> rfl
  | addWork other work => exact adjusted (updateQueue_snd registry other _) fun _ => rfl
  | finishWork other work => exact adjusted (finishWork_snd registry other work) fun _ => rfl
  | setStatus other status => exact adjusted (setStatus_snd registry other status) fun _ => rfl
  | clearErrors other status => exact adjusted (clearErrors_snd registry other status) fun _ => rfl
  | updateStatus other choose =>
      exact adjusted (updateStatus_snd registry other choose) fun _ => rfl
  | moveFlow flow source target =>
      exact trafficOn_of_keeps (keeps_moveFlow flows flow source target) id
  | moveAll source target => exact trafficOn_of_keeps (keeps_moveAll flows source target) id
  | forgetIdle time timeout => exact trafficOn_of_keeps (keeps_forgetIdle flows time timeout) id
  | forgetAll => exact trafficOn_of_keeps (keeps_forgetAll flows) id
  | bindAll planner => exact trafficOn_of_keeps (keeps_bind (fun _ _ => rfl) _) id
  | rebalance planner => exact trafficOn_of_keeps (keeps_bind (fun _ _ => rfl) _) id

/-! ## Operations one after another -/

theorem Leads.carries {now : Nat} (leads : Leads RegistryOp.recordsNothing now before after)
    (own : Ownership before) : Carries before after := by
  suffices both : after.Ownership ∧ Carries before after from both.2
  apply leads.induct _ ⟨own, .refl before⟩
  rintro registry op nothing ⟨agreed, carried⟩
  exact ⟨agreed.registryOp now op, carried.trans (agreed.carries_registryOp now op nothing)⟩

theorem Leads.trafficOn {now : Nat} (leads : Leads RegistryOp.recordsNothing now before after)
    (id : QueueId) (direction : Direction) :
    after.trafficOn id direction = before.trafficOn id direction := by
  let same : Registry → Prop := fun later =>
    later.trafficOn id direction = before.trafficOn id direction
  have start : same before := rfl
  refine leads.induct ?_ start
  intro registry op nothing kept
  exact (registry.trafficOn_registryOp now op nothing id direction).trans kept

end Registry

end FlowSteer
