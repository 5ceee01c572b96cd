import FlowSteer.Proofs.Maps
import FlowSteer.Proofs.Registry.Queues

/-!
# What operations leave alone

A view shows some fields of a queue. Two registries agree in a view when they have the same
queues and the view shows the same of each (`Keeps`). An operation keeps every view that is blind
to the fields which the operation changes:

* moving and forgetting flows: views blind to flows (`BlindToFlows`);
* counting packets: views blind to flows and counters (`BlindToTraffic`);
* statuses: views blind to status and counters (`BlindToHealth`);
* bindings: views blind to the processor.

What is proved of a run about one field of the queues then needs only the operations that change
this field.
-/

namespace FlowSteer

/-- The view does not show the flows. -/
def Queue.BlindToFlows {β : Type} (view : Queue → β) : Prop :=
  ∀ queue flows, view { queue with flows } = view queue

/-- The view shows neither flows nor counters. -/
def Queue.BlindToTraffic {β : Type} (view : Queue → β) : Prop :=
  ∀ queue flows counters, view { queue with flows, counters } = view queue

theorem Queue.BlindToTraffic.flows {β : Type} {view : Queue → β}
    (blind : Queue.BlindToTraffic view) : Queue.BlindToFlows view :=
  fun queue flows => blind queue flows queue.counters

/-- The view shows neither status nor counters. -/
def Queue.BlindToHealth {β : Type} (view : Queue → β) : Prop :=
  ∀ queue status counters, view { queue with status, counters } = view queue

/-- The view does not show the processor. -/
def Queue.BlindToCpu {β : Type} (view : Queue → β) : Prop :=
  ∀ queue cpu, view { queue with cpu } = view queue

namespace Registry

variable {β : Type} {view : Queue → β} {registry before middle after : Registry}

/-- Both registries have the same queues, and the view shows the same of each. -/
def Keeps (view : Queue → β) (before after : Registry) : Prop :=
  ∀ id, (after.queues.get? id).map view = (before.queues.get? id).map view

namespace Keeps

theorem refl (view : Queue → β) (registry : Registry) : Keeps view registry registry :=
  fun _ => rfl

theorem trans (first : Keeps view before middle) (second : Keeps view middle after) :
    Keeps view before after :=
  fun id => (second id).trans (first id)

/-- A queue of the later registry was there before, and the view showed the same of it. -/
theorem of_after (same : Keeps view before after) {id : QueueId} {queue : Queue}
    (found : after.queues.get? id = some queue) :
    ∃ old, before.queues.get? id = some old ∧ view queue = view old := by
  have shown := same id
  rw [found, Option.map_some] at shown
  obtain ⟨old, present, equal⟩ := Option.map_eq_some_iff.1 shown.symm
  exact ⟨old, present, equal.symm⟩

/-- A queue of the earlier registry is still there, and the view shows the same of it. -/
theorem of_before (same : Keeps view before after) {id : QueueId} {queue : Queue}
    (found : before.queues.get? id = some queue) :
    ∃ new, after.queues.get? id = some new ∧ view new = view queue := by
  have shown := same id
  rw [found, Option.map_some] at shown
  exact Option.map_eq_some_iff.1 shown

theorem absent_iff (same : Keeps view before after) (id : QueueId) :
    after.queues.get? id = none ↔ before.queues.get? id = none := by
  have shown := same id
  rw [← Option.map_eq_none_iff (f := view), shown, Option.map_eq_none_iff]

/-- What is made of a view is kept with it. -/
theorem comp {γ : Type} (same : Keeps view before after) (further : β → γ) :
    Keeps (fun queue => further (view queue)) before after := by
  intro id
  have shown := congrArg (Option.map further) (same id)
  rw [Option.map_map, Option.map_map] at shown
  exact shown

/-- The queues show the same, all together. -/
theorem map_queues (same : Keeps view before after) :
    (after.queues.map fun _ => view) = before.queues.map fun _ => view := by
  ext1 id
  rw [IdMap.get?_map, IdMap.get?_map, same]

theorem queueIds (same : Keeps view before after) : after.queueIds = before.queueIds := by
  have ids := congrArg IdMap.ids same.map_queues
  rwa [IdMap.ids_map, IdMap.ids_map] at ids

theorem total_eq {part : Queue → Nat} (same : Keeps part before after) :
    after.queues.total part = before.queues.total part :=
  IdMap.total_congr same

theorem putQueue {id : QueueId} {queue changed : Queue}
    (found : registry.queues.get? id = some queue) (same : view changed = view queue) :
    Keeps view registry (registry.putQueue id changed) := by
  intro other
  rw [get?_putQueue]
  by_cases equal : other = id
  · rw [if_pos equal, equal, found, Option.map_some, Option.map_some, same]
  · rw [if_neg equal]

theorem map {change : QueueId → Queue → Queue}
    (same : ∀ id queue, view (change id queue) = view queue) (directory : IdMap QueueId) :
    Keeps view registry
      { registry with queues := registry.queues.map change, directory } := by
  intro id
  show ((registry.queues.map change).get? id).map view = _
  rw [IdMap.get?_map]
  cases registry.queues.get? id with
  | none => rfl
  | some queue => exact congrArg some (same id queue)

end Keeps

theorem keeps_adjust {change : Queue → Queue} (same : ∀ queue, view (change queue) = view queue)
    (id : QueueId) : Keeps view registry (registry.adjust id change) := by
  intro other
  rw [get?_adjust]
  split
  · rw [Option.map_map]
    exact Option.map_congr fun queue _ => same queue
  · rfl

/-- Putting back both ends of a move, of which the view shows the same. -/
theorem keeps_ends {source target : QueueId} {sourceQueue targetQueue : Queue}
    (ends : registry.moveEnds source target = .ok (sourceQueue, targetQueue))
    {left moved : FlowTable}
    (sourceSame : view { sourceQueue with flows := left } = view sourceQueue)
    (targetSame : view { targetQueue with flows := moved } = view targetQueue) :
    Keeps view registry ((registry.putQueue source { sourceQueue with flows := left }).putQueue
      target { targetQueue with flows := moved }) := by
  obtain ⟨different, sourceFound, targetFound, -⟩ := moveEnds_eq_ok_iff.1 ends
  have targetKept : (registry.putQueue source { sourceQueue with flows := left }).queues.get?
      target = some targetQueue := by
    rw [get?_putQueue, if_neg (Ne.symm different), targetFound]
  exact (Keeps.putQueue sourceFound sourceSame).trans (Keeps.putQueue targetKept targetSame)

/-! ## Flows -/

section Flows

variable (blind : Queue.BlindToFlows view)
include blind

theorem keeps_recordLatency (flow : FlowId) (latency : Nat) :
    Keeps view registry (registry.recordLatency flow latency).2 := by
  rcases recordLatency_cases registry flow latency with
    ⟨error, result⟩ | ⟨owner, queue, _, found, _, result⟩
  · rw [result]
    exact .refl view registry
  · rw [result]
    exact .putQueue found (blind queue _)

theorem keeps_moveFlow (flow : FlowId) (source target : QueueId) :
    Keeps view registry (registry.moveFlow flow source target).2 := by
  rcases moveFlow_cases registry flow source target with
    ⟨error, result⟩ | ⟨_, _, _, ends, _, _, result⟩
  · rw [result]
    exact .refl view registry
  · rw [result]
    exact keeps_ends ends (blind _ _) (blind _ _)

theorem keeps_moveAll (source target : QueueId) :
    Keeps view registry (registry.moveAll source target).2 := by
  rcases moveAll_cases registry source target with ⟨error, result⟩ | ⟨_, _, ends, result⟩
  · rw [result]
    exact .refl view registry
  · rw [result]
    exact keeps_ends ends (blind _ _) (blind _ _)

theorem keeps_forgetIdle (time timeout : Nat) :
    Keeps view registry (registry.forgetIdle time timeout).2 :=
  .map (fun _ queue => blind queue _) _

theorem keeps_forgetAll : Keeps view registry registry.forgetAll.2 :=
  .map (fun _ queue => blind queue _) _

end Flows

/-! ## Traffic -/

section Traffic

variable (blind : Queue.BlindToTraffic view)
include blind

theorem keeps_record (id : QueueId) (flow : FlowId) (bytes : Nat) (direction : Direction)
    (now : Nat) : Keeps view registry (registry.record id flow bytes direction now).2 := by
  rcases record_cases registry id flow bytes direction now with
    ⟨error, result⟩ | ⟨queue, found, held, result⟩ | ⟨queue, found, _, _, _, _, result⟩
  · rw [result]
    exact .refl view registry
  · rw [result]
    exact .putQueue found (blind queue _ _)
  · rw [result]
    exact Keeps.putQueue found (blind queue _ _)

theorem keeps_countError (id : QueueId) (direction : Direction) :
    Keeps view registry (registry.countError id direction).2 := by
  rw [countError, updateQueue_snd]
  exact keeps_adjust (fun queue => blind queue queue.flows _) id

theorem keeps_countDrop (id : QueueId) (direction : Direction) :
    Keeps view registry (registry.countDrop id direction).2 := by
  rw [countDrop, updateQueue_snd]
  exact keeps_adjust (fun queue => blind queue queue.flows _) id

end Traffic

/-! ## Health -/

section Health

variable (blind : Queue.BlindToHealth view)
include blind

theorem keeps_setStatus (id : QueueId) (status : QueueStatus) :
    Keeps view registry (registry.setStatus id status).2 := by
  rw [setStatus_snd]
  exact keeps_adjust (fun queue => blind queue status queue.counters) id

theorem keeps_clearErrors (id : QueueId) (status : QueueStatus) :
    Keeps view registry (registry.clearErrors id status).2 := by
  rw [clearErrors_snd]
  exact keeps_adjust (fun queue => blind queue status _) id

theorem keeps_updateStatus (id : QueueId) (choose : QueueView → Option QueueStatus) :
    Keeps view registry (registry.updateStatus id choose).2 := by
  rw [updateStatus_snd]
  exact keeps_adjust (fun queue => blind queue _ queue.counters) id

end Health

/-! ## Bindings -/

theorem keeps_bind (blind : Queue.BlindToCpu view) (bindings : List Binding) :
    Keeps view registry (registry.bind bindings) := by
  suffices bound : ∀ queues : IdMap Queue, ∀ id,
      ((bindings.foldl (fun queues binding =>
        queues.modify binding.queue ({ · with cpu := some binding.target })) queues).get? id).map
          view = (queues.get? id).map view from bound registry.queues
  induction bindings with
  | nil => exact fun _ _ => rfl
  | cons binding rest ih =>
      intro queues id
      rw [List.foldl_cons, ih, IdMap.get?_modify]
      split
      · rw [Option.map_map]
        exact Option.map_congr fun queue _ => blind queue _
      · rfl

end Registry

end FlowSteer
