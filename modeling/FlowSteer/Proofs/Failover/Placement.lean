import FlowSteer.Proofs.Failover.Remaps
import FlowSteer.Proofs.Registry.Ownership

/-!
# Placing one flow

A flow is looked for in the tables of all queues and moved to the queue that is named. Where tables
and directory agree, the outcome depends on the named queue and on the owner of the flow alone.

1. `Registry.SparesOthers`, `Registry.Rehomes`: other flows and the queues stay as they are, and the
   flow takes along what is known of it.
2. `placeFlow_of_absent`, `placeFlow_of_unowned`, `placeFlow_of_home`, `placeFlow_of_failed`,
   `placeFlow_of_inService`: the outcomes, each with its condition.
3. `placeFlow_ok_iff`, `rehomes_placeFlow`, `sparesOthers_placeFlow`: when a flow is placed, and
   what that does.
-/

namespace FlowSteer

/-- The queue without its flows. -/
def Queue.withoutFlows (queue : Queue) : Queue := { queue with flows := queue.flows.clear }

namespace Registry

/-- Nothing has changed but where one flow lives. -/
structure SparesOthers (before after : Registry) (flow : FlowId) : Prop where
  entries : ∀ id other, other ≠ flow → after.flow? id other = before.flow? id other
  owners : ∀ other, other ≠ flow → after.ownerOf other = before.ownerOf other
  /-- Statuses, counters, pending work and all else but the flows. -/
  queues : Keeps Queue.withoutFlows before after
  rest : after = { before with queues := after.queues, directory := after.directory }

/-- A flow that lived on a source lives on a target, which may be the same queue. -/
structure Rehomes (before after : Registry) (flow : FlowId) (source target : QueueId) : Prop
    extends SparesOthers before after flow where
  home : before.ownerOf flow = some source
  owner : after.ownerOf flow = some target
  /-- What the source knew of the flow the target knows, and no other queue. -/
  carried : ∃ entry, before.flow? source flow = some entry ∧
    ∀ id, after.flow? id flow = if id = target then some entry else none

theorem SparesOthers.refl (registry : Registry) (flow : FlowId) :
    SparesOthers registry registry flow where
  entries := fun _ _ _ => rfl
  owners := fun _ _ => rfl
  queues := .refl _ registry
  rest := rfl

variable {registry : Registry} {flow : FlowId} {source target : QueueId}

namespace Ownership

theorem rehomes_refl (own : Ownership registry) (owned : registry.ownerOf flow = some target) :
    Rehomes registry registry flow target target where
  toSparesOthers := .refl registry flow
  home := owned
  owner := owned
  carried := by
    obtain ⟨entry, found⟩ := Option.isSome_iff_exists.1 (own.listed.1 owned)
    refine ⟨entry, found, fun id => ?_⟩
    by_cases same : id = target
    · rw [if_pos same, same, found]
    · rw [if_neg same, own.flow?_of_ne owned same]

theorem sparesOthers_moveFlow (own : Ownership registry) (flow : FlowId)
    (source target : QueueId) :
    SparesOthers registry (registry.moveFlow flow source target).2 flow := by
  rcases registry.moveFlow_cases flow source target with
    ⟨error, result⟩ | ⟨sourceQueue, targetQueue, moving, ends, found, _, result⟩
  · rw [result]
    exact .refl registry flow
  · rw [result]
    obtain ⟨-, sourceFound, targetFound, -⟩ := moveEnds_eq_ok_iff.1 ends
    constructor
    case entries =>
      intro id other different
      have apart : other ≠ moving.id := by rwa [own.stored_in sourceFound found]
      apply flow?_ends_of_same sourceFound targetFound
      · rw [FlowTable.get?_erase, if_neg different]
      · rw [FlowTable.get?_put, if_neg apart]
    case owners =>
      intro other different
      exact IdMap.get?_insert_of_ne different _ _
    case queues =>
      have sourceSame : Queue.withoutFlows
            { sourceQueue with flows := sourceQueue.flows.erase flow } =
          sourceQueue.withoutFlows := rfl
      exact keeps_ends ends sourceSame rfl
    case rest => rfl

theorem rehomes_moveFlow (own : Ownership registry) (owned : registry.ownerOf flow = some source)
    (moved : (registry.moveFlow flow source target).1 = .ok ()) :
    Rehomes registry (registry.moveFlow flow source target).2 flow source target := by
  have spares := own.sparesOthers_moveFlow flow source target
  rcases registry.moveFlow_cases flow source target with
    ⟨error, result⟩ | ⟨sourceQueue, targetQueue, moving, ends, found, _, result⟩
  · rw [result] at moved
    cases moved
  · rw [result] at spares ⊢
    obtain ⟨-, sourceFound, -, -⟩ := moveEnds_eq_ok_iff.1 ends
    have named : moving.id = flow := own.stored_in sourceFound found
    refine ⟨spares, owned, IdMap.get?_insert_self _ _ _, moving,
      (flow?_of_get? sourceFound flow).trans found, ?_⟩
    intro id
    rw [flow?_ends, FlowTable.get?_put, if_pos named.symm, FlowTable.get?_erase, if_pos rfl]
    by_cases atSource : id = source
    · rw [if_pos atSource]
    · rw [if_neg atSource, own.flow?_of_ne owned atSource]

end Ownership

end Registry

namespace Failover

variable {failover : Failover} {flow : FlowId} {source target : QueueId} {queue : Queue}

theorem placeFlow_of_absent (absent : failover.registry.queues.get? target = none) :
    failover.placeFlow flow target = (.error (.noSuchQueue target), failover) := by
  unfold placeFlow
  rw [Registry.queue_of_absent absent]

section Registered

variable (own : failover.registry.Ownership)
  (found : failover.registry.queues.get? target = some queue)
include own found

theorem placeFlow_of_unowned (unowned : failover.registry.ownerOf flow = none) :
    failover.placeFlow flow target = (.error (.noSuchFlow flow target), failover) := by
  unfold placeFlow
  rw [Registry.queue_of_get? found, own.holderOf_eq, unowned]

/-- A flow that is in place already stays there, whatever the status of its queue. -/
theorem placeFlow_of_home (owned : failover.registry.ownerOf flow = some target) :
    failover.placeFlow flow target = (.ok none, failover) := by
  unfold placeFlow
  simp only [Registry.queue_of_get? found, own.holderOf_eq, owned, if_true]

theorem placeFlow_of_failed (owned : failover.registry.ownerOf flow = some source)
    (different : source ≠ target) (failed : queue.isFailed = true) :
    failover.placeFlow flow target = (.error (.outOfService target), failover) := by
  obtain ⟨sourceQueue, _, sourceFound, -⟩ := own.entry_of_owner owned
  have refused : failover.registry.moveEnds source target = .error (.outOfService target) := by
    rw [Registry.moveEnds_eq, if_neg different, Registry.queue_of_get? sourceFound,
      Registry.queue_of_get? found]
    exact if_pos failed
  have unmoved : failover.registry.moveFlow flow source target =
      (.error (.outOfService target), failover.registry) := by
    unfold Registry.moveFlow
    rw [refused]
  unfold placeFlow
  simp only [Registry.queue_of_get? found, own.holderOf_eq, owned, different, unmoved, if_false]

theorem placeFlow_of_inService (owned : failover.registry.ownerOf flow = some source)
    (different : source ≠ target) (inService : queue.isFailed = false) :
    (failover.registry.moveFlow flow source target).1 = .ok () ∧
      failover.placeFlow flow target = (.ok (some source),
        { failover with registry := (failover.registry.moveFlow flow source target).2 }) := by
  obtain ⟨sourceQueue, _, sourceFound, held⟩ := own.entry_of_owner owned
  have moved := own.moveFlow_of_held
    (Registry.moveEnds_eq_ok_iff.2 ⟨different, sourceFound, found, inService⟩) held
  refine ⟨moved, ?_⟩
  unfold placeFlow
  simp only [Registry.queue_of_get? found, own.holderOf_eq, owned, different, if_false]
  cases result : failover.registry.moveFlow flow source target with
  | mk outcome registry =>
      rw [result] at moved
      cases moved
      rfl

end Registered

/-- Whether a flow is placed or not, other flows stay as they are. -/
theorem sparesOthers_placeFlow (own : failover.registry.Ownership) (flow : FlowId)
    (target : QueueId) :
    failover.registry.SparesOthers (failover.placeFlow flow target).2.registry flow := by
  rcases failover.placeFlow_cases flow target with
    ⟨_, result⟩ | result | ⟨source, _, result⟩ <;> rw [result]
  · exact .refl _ flow
  · exact .refl _ flow
  · exact own.sparesOthers_moveFlow flow source target

/-- A flow is placed exactly when its queue is registered, some queue owns it, and the flow is in
place already or the queue is in service. -/
theorem placeFlow_ok_iff (own : failover.registry.Ownership) :
    (∃ source?, (failover.placeFlow flow target).1 = .ok source?) ↔
      ∃ queue owner, failover.registry.queues.get? target = some queue ∧
        failover.registry.ownerOf flow = some owner ∧
        (owner = target ∨ queue.status ≠ .failed) := by
  constructor
  · rintro ⟨source?, placed⟩
    cases found : failover.registry.queues.get? target with
    | none =>
        rw [placeFlow_of_absent found] at placed
        cases placed
    | some queue =>
        cases owned : failover.registry.ownerOf flow with
        | none =>
            rw [placeFlow_of_unowned own found owned] at placed
            cases placed
        | some owner =>
            refine ⟨queue, owner, rfl, rfl, ?_⟩
            by_contra neither
            obtain ⟨different, failed⟩ := not_or.1 neither
            have isFailed : queue.isFailed = true := beq_iff_eq.2 (Decidable.not_not.1 failed)
            rw [placeFlow_of_failed own found owned different isFailed] at placed
            cases placed
  · rintro ⟨queue, owner, found, owned, allowed⟩
    by_cases same : owner = target
    · rw [same] at owned
      exact ⟨none, by rw [placeFlow_of_home own found owned]⟩
    · have inService : queue.isFailed = false := beq_eq_false_iff_ne.2 (allowed.resolve_left same)
      obtain ⟨-, placed⟩ := placeFlow_of_inService own found owned same inService
      exact ⟨some owner, by rw [placed]⟩

/-- A flow that is placed lives on its queue, and the queue that is reported is the one from which
it came. -/
theorem rehomes_placeFlow (own : failover.registry.Ownership) {source? : Option QueueId}
    (placed : (failover.placeFlow flow target).1 = .ok source?) :
    ∃ source, source? = (if source = target then none else some source) ∧
      failover.registry.Rehomes (failover.placeFlow flow target).2.registry flow source target := by
  obtain ⟨queue, source, found, owned, allowed⟩ := (placeFlow_ok_iff own).1 ⟨source?, placed⟩
  refine ⟨source, ?_⟩
  by_cases same : source = target
  · subst same
    rw [placeFlow_of_home own found owned] at placed ⊢
    cases placed
    exact ⟨(if_pos rfl).symm, own.rehomes_refl owned⟩
  · have inService : queue.isFailed = false := beq_eq_false_iff_ne.2 (allowed.resolve_left same)
    obtain ⟨moved, result⟩ := placeFlow_of_inService own found owned same inService
    rw [result] at placed ⊢
    cases placed
    exact ⟨(if_neg same).symm, own.rehomes_moveFlow owned moved⟩

end Failover

end FlowSteer
