import FlowSteer.Proofs.Registry.Queues

/-!
# Packets of different flows on different queues

Counting a packet reads two places: the queue that is asked, and the owner that the directory names
for the flow. It writes to the same two places and to no other (`Confined`). Two operations that are
confined to different queues and different flows do not see each other, so that it makes no
difference which of them comes first (`Confined.commute`).

1. `record_agree`: registries that agree in queue and owner give the same answer to a packet, and
   agree in them afterwards.
2. `confined_record`: so the counting of a packet is confined, whatever comes of it.
3. `records_commute`: packets of different flows on different queues are counted, or refused, alike
   in both orders. A queue of one packet may own the flow of the other.
-/

namespace FlowSteer

namespace Registry

variable {α : Type} {id otherId : QueueId} {flow otherFlow : FlowId} {left right : Registry}

/-! ## Operations on one queue and one flow -/

/-- The registries agree in one queue and in the owner of one flow. -/
structure Agree (id : QueueId) (flow : FlowId) (left right : Registry) : Prop where
  queue : left.queues.get? id = right.queues.get? id
  owner : left.ownerOf flow = right.ownerOf flow

/-- The operation reads and writes no more than one queue and the owner of one flow. -/
structure Confined (id : QueueId) (flow : FlowId) (operation : Registry → α × Registry) :
    Prop where
  answer : ∀ {left right}, Agree id flow left right → (operation left).1 = (operation right).1
  written : ∀ {left right}, Agree id flow left right →
    Agree id flow (operation left).2 (operation right).2
  otherQueues : ∀ registry {other}, other ≠ id →
    (operation registry).2.queues.get? other = registry.queues.get? other
  otherOwners : ∀ registry {other}, other ≠ flow →
    (operation registry).2.ownerOf other = registry.ownerOf other
  capacity : ∀ registry, (operation registry).2.capacity = registry.capacity
  maxFlows : ∀ registry, (operation registry).2.maxFlows = registry.maxFlows

/-- Both orders of two operations give the same answers and lead to the same registry. -/
structure Commute (first second : Registry → α × Registry) (registry : Registry) : Prop where
  firstAnswer : (first (second registry).2).1 = (first registry).1
  secondAnswer : (second (first registry).2).1 = (second registry).1
  result : (second (first registry).2).2 = (first (second registry).2).2

namespace Confined

variable {first second : Registry → α × Registry}

/-- What another operation leaves of the queue and the owner. -/
theorem unseen (other : Confined otherId otherFlow second) (differentQueues : id ≠ otherId)
    (differentFlows : flow ≠ otherFlow) (registry : Registry) :
    Agree id flow (second registry).2 registry where
  queue := other.otherQueues registry differentQueues
  owner := other.otherOwners registry differentFlows

/-- Operations confined to different places commute. A queue after both of them is as the operation
on it leaves it, if there is one, and so is an owner. -/
theorem commute (here : Confined id flow first) (there : Confined otherId otherFlow second)
    (differentQueues : id ≠ otherId) (differentFlows : flow ≠ otherFlow) (registry : Registry) :
    Commute first second registry := by
  have hereUnseen := here.unseen differentQueues.symm differentFlows.symm registry
  have thereUnseen := there.unseen differentQueues differentFlows registry
  constructor
  case firstAnswer => exact here.answer thereUnseen
  case secondAnswer => exact there.answer hereUnseen
  case result =>
    apply ext_lookups
    case capacity => rw [there.capacity, here.capacity, here.capacity, there.capacity]
    case maxFlows => rw [there.maxFlows, here.maxFlows, here.maxFlows, there.maxFlows]
    case queues =>
      intro other
      by_cases isHere : other = id
      · rw [isHere, there.otherQueues _ differentQueues, (here.written thereUnseen).queue]
      · rw [here.otherQueues _ isHere]
        by_cases isThere : other = otherId
        · rw [isThere, (there.written hereUnseen).queue]
        · rw [there.otherQueues _ isThere, there.otherQueues _ isThere,
            here.otherQueues _ isHere]
    case owners =>
      intro other
      by_cases isHere : other = flow
      · rw [isHere, there.otherOwners _ differentFlows, (here.written thereUnseen).owner]
      · rw [here.otherOwners _ isHere]
        by_cases isThere : other = otherFlow
        · rw [isThere, (there.written hereUnseen).owner]
        · rw [there.otherOwners _ isThere, there.otherOwners _ isThere,
            here.otherOwners _ isHere]

end Confined

/-! ## Counting packets -/

/-- One queue put in place in both registries. -/
theorem Agree.putQueue (agree : Agree id flow left right) (queue : Queue) :
    Agree id flow (left.putQueue id queue) (right.putQueue id queue) where
  queue := by rw [get?_putQueue, get?_putQueue, if_pos rfl, if_pos rfl]
  owner := agree.owner

/-- One queue put in place and the flow listed for it in both registries. -/
theorem agree_listed (left right : Registry) (id : QueueId) (flow : FlowId) (queue : Queue) :
    Agree id flow { left.putQueue id queue with directory := left.directory.insert flow id }
      { right.putQueue id queue with directory := right.directory.insert flow id } where
  queue := by
    show (left.putQueue id queue).queues.get? id = (right.putQueue id queue).queues.get? id
    rw [get?_putQueue, get?_putQueue, if_pos rfl, if_pos rfl]
  owner := by
    show (left.directory.insert flow id).get? flow = (right.directory.insert flow id).get? flow
    rw [IdMap.get?_insert_self, IdMap.get?_insert_self]

/-- The answer to a packet, and what is left of queue and owner, depend on queue and owner alone. -/
theorem record_agree (agree : Agree id flow left right) (bytes : Nat) (direction : Direction)
    (now : Nat) :
    (left.record id flow bytes direction now).1 = (right.record id flow bytes direction now).1 ∧
      Agree id flow (left.record id flow bytes direction now).2
        (right.record id flow bytes direction now).2 := by
  rw [record_eq left, record_eq right, agree.queue, agree.owner]
  cases right.queues.get? id with
  | none => exact ⟨rfl, agree⟩
  | some queue =>
      simp only []
      cases queue.reception id (right.ownerOf flow) flow bytes direction now with
      | error error => exact ⟨rfl, agree⟩
      | ok after =>
          cases queue.flows.contains flow with
          | true => exact ⟨rfl, agree.putQueue after⟩
          | false => exact ⟨rfl, agree_listed left right id flow after⟩

/-- The counting of a packet is confined to its queue and its flow, also where it is refused. -/
theorem confined_record (id : QueueId) (flow : FlowId) (bytes : Nat) (direction : Direction)
    (now : Nat) : Confined id flow (·.record id flow bytes direction now) where
  answer := fun agree => (record_agree agree bytes direction now).1
  written := fun agree => (record_agree agree bytes direction now).2
  otherQueues := by
    intro registry other different
    rcases registry.record_cases id flow bytes direction now with
      ⟨_, result⟩ | ⟨_, _, _, result⟩ | ⟨queue, _, _, _, _, _, result⟩ <;> simp only [result]
    · rw [get?_putQueue, if_neg different]
    · exact (registry.get?_putQueue id other _).trans (if_neg different)
  otherOwners := by
    intro registry other different
    rcases registry.record_cases id flow bytes direction now with
      ⟨_, result⟩ | ⟨_, _, _, result⟩ | ⟨_, _, _, _, _, _, result⟩ <;> simp only [result]
    · rfl
    · exact IdMap.get?_insert_of_ne different registry.directory id
  capacity := by
    intro registry
    rcases registry.record_cases id flow bytes direction now with
      ⟨_, result⟩ | ⟨_, _, _, result⟩ | ⟨_, _, _, _, _, _, result⟩ <;> simp only [result] <;> rfl
  maxFlows := by
    intro registry
    rcases registry.record_cases id flow bytes direction now with
      ⟨_, result⟩ | ⟨_, _, _, result⟩ | ⟨_, _, _, _, _, _, result⟩ <;> simp only [result] <;> rfl

/-- In every registry, reached by a run or not, packets of different flows on different queues at
one time are counted or refused alike in both orders, and both orders lead to the same registry. -/
theorem records_commute (registry : Registry) {firstId secondId : QueueId}
    (differentQueues : firstId ≠ secondId) {firstFlow secondFlow : FlowId}
    (differentFlows : firstFlow ≠ secondFlow) (firstBytes secondBytes : Nat)
    (firstDirection secondDirection : Direction) (now : Nat) :
    Commute (·.record firstId firstFlow firstBytes firstDirection now)
      (·.record secondId secondFlow secondBytes secondDirection now) registry := by
  have first := confined_record firstId firstFlow firstBytes firstDirection now
  have second := confined_record secondId secondFlow secondBytes secondDirection now
  exact first.commute second differentQueues differentFlows registry

/-- A packet that is refused because the queue of the other packet owns its flow, and a new flow on
that queue. -/
theorem records_commute_with_owner :
    let registry := ((((empty 2 2).register 0 0).2.register 1 0).2.record 0 5 60 .rx 0).2
    Commute (·.record 1 5 40 .rx 3) (·.record 0 6 70 .tx 3) registry ∧
      (registry.record 1 5 40 .rx 3).1 = .error (.ownedElsewhere 5 0) ∧
      (registry.record 0 6 70 .tx 3).1 = .ok () := by
  intro registry
  have differentQueues : (1 : QueueId) ≠ 0 := by decide
  have differentFlows : (5 : FlowId) ≠ 6 := by decide
  exact ⟨records_commute registry differentQueues differentFlows 40 70 .rx .tx 3, rfl, rfl⟩

end Registry

end FlowSteer
