import FlowSteer.Proofs.Registry.Effects

/-!
# Outages and statuses

Outages are kept by failover, statuses by the registry. They agree (`OnRecord`): an outage is open
for a queue exactly when the queue is failed or recovering.

1. `OnRecord.failoverOp`: each operation of failover keeps this, whichever way it ends.
2. `OnRecord.recover_all`: hence a recovery late enough for all outages puts every queue back into
   service. No queue is out of service for good because its outage was lost.
3. `System.onRecord_run`: so it is after every run in which statuses are left to failover.
-/

namespace FlowSteer

/-- Is the status one that an outage goes with. -/
def QueueStatus.isAiling : QueueStatus → Bool
  | failed | recovering => true
  | active | degraded => false

theorem QueueStatus.isAiling_iff {status : QueueStatus} :
    status.isAiling = true ↔ status = .failed ∨ status = .recovering := by
  cases status <;> simp [isAiling]

/-! ## Queues that are failed or recovering -/

namespace Registry

/-- Is the queue there, and failed or recovering. -/
def Ailing (registry : Registry) (id : QueueId) : Prop :=
  ∃ queue, registry.queues.get? id = some queue ∧ queue.status.isAiling = true

instance (registry : Registry) (id : QueueId) : Decidable (registry.Ailing id) :=
  decidable_of_iff ((registry.queues.get? id).any (·.status.isAiling) = true)
    (Option.any_eq_true _ _)

variable {registry before after : Registry} {id other : QueueId} {queue : Queue}

theorem status_blindToTraffic : Queue.BlindToTraffic Queue.status := fun _ _ _ => rfl

theorem ailing_of_keeps (same : Keeps Queue.status before after) (id : QueueId) :
    after.Ailing id ↔ before.Ailing id := by
  constructor
  · rintro ⟨queue, found, ailing⟩
    obtain ⟨old, present, equal⟩ := same.of_after found
    exact ⟨old, present, equal ▸ ailing⟩
  · rintro ⟨queue, found, ailing⟩
    obtain ⟨new, present, equal⟩ := same.of_before found
    exact ⟨new, present, equal.symm ▸ ailing⟩

theorem ailing_adjust (registry : Registry) (id other : QueueId) (change : Queue → Queue) :
    (registry.adjust id change).Ailing other ↔
      if other = id then
        ∃ queue, registry.queues.get? id = some queue ∧ (change queue).status.isAiling = true
      else registry.Ailing other := by
  unfold Ailing
  rw [get?_adjust]
  by_cases same : other = id
  · rw [if_pos same, if_pos same, same]
    constructor
    · rintro ⟨changed, found, ailing⟩
      obtain ⟨queue, present, rfl⟩ := Option.map_eq_some_iff.1 found
      exact ⟨queue, present, ailing⟩
    · rintro ⟨queue, present, ailing⟩
      exact ⟨_, Option.map_eq_some_iff.2 ⟨queue, present, rfl⟩, ailing⟩
  · rw [if_neg same, if_neg same]

/-- A new queue is in service. -/
theorem ailing_register (registry : Registry) (id : QueueId) (node : NodeId) (other : QueueId) :
    (registry.register id node).2.Ailing other ↔ registry.Ailing other := by
  rcases registry.register_cases id node with ⟨_, result⟩ | ⟨missing, result⟩
  · rw [result]
  · rw [result]
    unfold Ailing
    rw [get?_putQueue]
    by_cases same : other = id
    · rw [if_pos same, same, missing]
      apply iff_of_false
      · rintro ⟨queue, found, ailing⟩
        cases found
        cases ailing
      · rintro ⟨queue, found, -⟩
        cases found
    · rw [if_neg same]

/-- Operations that leave statuses to failover do not change which queues are ailing. -/
theorem ailing_registryOp (registry : Registry) (now : Nat) (op : RegistryOp)
    (indirect : op.setsStatus = false) (id : QueueId) :
    (op.apply now registry).Ailing id ↔ registry.Ailing id := by
  have traffic := status_blindToTraffic
  have flows := traffic.flows
  cases op with
  | register other node => exact ailing_register registry other node id
  | record other flow bytes direction =>
      exact ailing_of_keeps (keeps_record traffic other flow bytes direction now) id
  | recordLatency flow latency =>
      exact ailing_of_keeps (keeps_recordLatency flows flow latency) id
  | countError other direction =>
      exact ailing_of_keeps (keeps_countError traffic other direction) id
  | countDrop other direction => exact ailing_of_keeps (keeps_countDrop traffic other direction) id
  | addWork other work =>
      exact ailing_of_keeps (keeps_byLink traffic (fun _ _ => rfl) (.addWork other work) rfl) id
  | finishWork other work =>
      exact ailing_of_keeps (keeps_byLink traffic (fun _ _ => rfl) (.finishWork other work) rfl) id
  | setStatus other status => cases indirect
  | clearErrors other status => cases indirect
  | updateStatus other choose => cases indirect
  | moveFlow flow source target =>
      exact ailing_of_keeps (keeps_moveFlow flows flow source target) id
  | moveAll source target => exact ailing_of_keeps (keeps_moveAll flows source target) id
  | forgetIdle time timeout => exact ailing_of_keeps (keeps_forgetIdle flows time timeout) id
  | forgetAll => exact ailing_of_keeps (keeps_forgetAll flows) id
  | bindAll planner => exact ailing_of_keeps (keeps_bind (fun _ _ => rfl) _) id
  | rebalance planner => exact ailing_of_keeps (keeps_bind (fun _ _ => rfl) _) id

end Registry

/-- The packet path does not change which queues are failed or recovering. -/
theorem LinkOp.ailing_apply {now : Nat} (link : Link) (op : LinkOp) (id : QueueId) :
    (op.apply now link).registry.Ailing id ↔ link.registry.Ailing id := by
  have statuses : Registry.Keeps Queue.status link.registry (op.apply now link).registry := by
    apply (op.leads link).keeps
    exact fun _ other allowed => Registry.keeps_byLink Registry.status_blindToTraffic
      (fun _ _ => rfl) other allowed
  exact Registry.ailing_of_keeps statuses id

/-! ## The agreement -/

namespace Failover

/-- Moving the flows of a queue that is failed or recovering does not change which queues are. -/
theorem ailing_movedAll {failover : Failover} {source : QueueId}
    (ailing : failover.registry.Ailing source) (target : QueueId) (moved : Nat)
    (cause : RemapCause) (time : Nat) (id : QueueId) :
    (failover.movedAll source target moved cause time).registry.Ailing id ↔
      failover.registry.Ailing id := by
  have statuses : ∀ id, (failover.registry.moveAll source target).2.Ailing id ↔
      failover.registry.Ailing id := Registry.ailing_of_keeps
    (Registry.keeps_moveAll Registry.status_blindToTraffic.flows source target)
  show (((failover.registry.moveAll source target).2.clearErrors source .recovering).2).Ailing id ↔
    failover.registry.Ailing id
  rw [Registry.clearErrors_snd, Registry.ailing_adjust]
  by_cases same : id = source
  · rw [if_pos same, same]
    obtain ⟨queue, found, -⟩ := (statuses source).2 ailing
    exact iff_of_true ⟨queue, found, rfl⟩ ailing
  · rw [if_neg same, statuses]

theorem ailing_placeFlow (failover : Failover) (flow : FlowId) (target id : QueueId) :
    (failover.placeFlow flow target).2.registry.Ailing id ↔ failover.registry.Ailing id := by
  rcases failover.placeFlow_cases flow target with ⟨_, result⟩ | result | ⟨source, _, result⟩ <;>
    rw [result]
  exact Registry.ailing_of_keeps
    (Registry.keeps_moveFlow Registry.status_blindToTraffic.flows flow source target) id

/-- The health pass switches between statuses that go with no outage. -/
theorem ailing_switchStatus (failover : Failover) (id : QueueId) {expected new : QueueStatus}
    (expectedWell : expected.isAiling = false) (newWell : new.isAiling = false) (other : QueueId) :
    (failover.switchStatus id expected new).2.registry.Ailing other ↔
      failover.registry.Ailing other := by
  rw [switchStatus_snd]
  show ((failover.registry.updateStatus id (switched expected new)).2).Ailing other ↔ _
  rw [Registry.updateStatus_snd, Registry.ailing_adjust]
  by_cases same : other = id
  · rw [if_pos same, same]
    apply exists_congr
    intro queue
    apply and_congr_right
    intro _
    show ((switched expected new (queue.view id)).getD queue.status).isAiling = true ↔ _
    unfold switched
    by_cases isExpected : (queue.view id).status = expected
    · have well : queue.status.isAiling = false := by
        rw [show queue.status = expected from isExpected, expectedWell]
      rw [if_pos isExpected, Option.getD_some, newWell, well]
    · rw [if_neg isExpected, Option.getD_none]
  · rw [if_neg same]

/-- Outages and statuses agree: an outage is open exactly when the queue is failed or recovering. -/
def OnRecord (failover : Failover) : Prop :=
  ∀ id, (failover.outages.get? id).isSome ↔ failover.registry.Ailing id

namespace OnRecord

variable {now : Nat} {failover after : Failover} {id : QueueId} {queue : Queue}

/-- Outages stay as they are, and so does which queues are ailing. -/
theorem of_same (onRecord : OnRecord failover) (outages : after.outages = failover.outages)
    (same : ∀ id, after.registry.Ailing id ↔ failover.registry.Ailing id) : OnRecord after := by
  intro id
  rw [outages, same]
  exact onRecord id

/-- A queue gets a status that goes with an outage, and its outage is opened or goes on. -/
theorem put (onRecord : OnRecord failover) {outage : Outage}
    (found : failover.registry.queues.get? id = some queue) {change : Queue → Queue}
    (ailing : (change queue).status.isAiling = true)
    (outages : after.outages = failover.outages.insert id outage)
    (registry : after.registry = failover.registry.adjust id change) : OnRecord after := by
  intro other
  rw [outages, registry, Registry.ailing_adjust, IdMap.get?_insert]
  by_cases same : other = id
  · rw [if_pos same, if_pos same]
    exact iff_of_true rfl ⟨queue, found, ailing⟩
  · rw [if_neg same, if_neg same]
    exact onRecord other

/-! ## Steps of failover -/

theorem noteFailure (onRecord : OnRecord failover)
    (found : failover.registry.queues.get? id = some queue) {status : QueueStatus}
    (ailing : status.isAiling = true) : OnRecord (failover.noteFailure id now status) :=
  onRecord.put found ailing rfl (failover.registry.clearErrors_snd id status)

theorem noteManual (onRecord : OnRecord failover)
    (found : failover.registry.queues.get? id = some queue) :
    OnRecord (failover.noteManual id now) :=
  onRecord.put found rfl rfl (failover.registry.setStatus_snd id .failed)

/-- Once its outage is open, a queue whose flows have moved is recovering. -/
theorem movedAll (onRecord : OnRecord failover) {source : QueueId}
    (isOpen : (failover.outages.get? source).isSome) (target : QueueId) (moved : Nat)
    (cause : RemapCause) (time : Nat) :
    OnRecord (failover.movedAll source target moved cause time) := by
  have ailing := (onRecord source).1 isOpen
  exact onRecord.of_same rfl fun id => ailing_movedAll ailing target moved cause time id

theorem handleFailure (onRecord : OnRecord failover) (id : QueueId) :
    OnRecord (failover.handleFailure id now).2 := by
  have opened : ∀ status, ((failover.noteFailure id now status).outages.get? id).isSome := by
    intro status
    show ((failover.outages.insert id _).get? id).isSome
    rw [IdMap.get?_insert_self]
    rfl
  rcases failover.handleFailure_cases id now with
    ⟨_, result⟩ | ⟨queue, found, ⟨_, result⟩ | ⟨_, _, result⟩ | ⟨_, _, _, result⟩ |
      ⟨_, _, target, moved, _, _, result⟩⟩
  · rw [result]
    exact onRecord
  · rw [result]
    exact onRecord.noteFailure found rfl
  · rw [result]
    exact onRecord.noteFailure found rfl
  · rw [result]
    exact onRecord.noteFailure found rfl
  · rw [result]
    have noted : OnRecord (failover.noteFailure id now .failed) :=
      onRecord.noteFailure found rfl
    exact (noted.movedAll (opened .failed) target moved .automatic now).of_same rfl
      fun _ => Iff.rfl

theorem remapByHand (onRecord : OnRecord failover) (source : QueueId)
    (target? : Option QueueId) : OnRecord (failover.remapByHand source target? now).2 := by
  rcases failover.remapByHand_cases source target? now with
    ⟨_, _, result⟩ | ⟨checked, _, result⟩ | ⟨checked, target, moved, _, _, result⟩
  · rw [result]
    exact onRecord
  · rw [result]
    obtain ⟨queue, found⟩ := source_of_checkRemap checked
    exact onRecord.noteManual found
  · rw [result]
    obtain ⟨queue, found⟩ := source_of_checkRemap checked
    have opened : ((failover.noteManual source now).outages.get? source).isSome := by
      show ((failover.outages.insert source _).get? source).isSome
      rw [IdMap.get?_insert_self]
      rfl
    exact (onRecord.noteManual found).movedAll opened target moved .manual now

/-- A queue is ailing after a recovery when it was before and its outage is not over. -/
theorem recover_ailing (failover : Failover) (time : Nat) (id : QueueId) :
    (failover.recover time).2.registry.Ailing id ↔
      failover.registry.Ailing id ∧ id ∉ (failover.recover time).1 := by
  unfold Registry.Ailing
  rw [get?_queues_recover]
  split
  · rename_i recovered
    refine iff_of_false ?_ fun both => both.2 recovered
    rintro ⟨queue, found, ailing⟩
    obtain ⟨_, _, rfl⟩ := Option.map_eq_some_iff.1 found
    cases ailing
  · rename_i left
    exact (and_iff_left left).symm

/-- Recovery closes outages and puts exactly their queues into service. -/
theorem recover (onRecord : OnRecord failover) (time : Nat) :
    OnRecord (failover.recover time).2 := by
  intro id
  rw [get?_outages_recover, recover_ailing]
  split
  · rename_i recovered
    exact iff_of_false Bool.false_ne_true fun both => both.2 recovered
  · rename_i left
    exact (onRecord id).trans (and_iff_left left).symm

theorem placeFlow (onRecord : OnRecord failover) (flow : FlowId) (target : QueueId) :
    OnRecord (failover.placeFlow flow target).2 := by
  refine onRecord.of_same ?_ (ailing_placeFlow failover flow target)
  rcases failover.placeFlow_cases flow target with ⟨_, result⟩ | result | ⟨_, _, result⟩ <;>
    rw [result]

theorem switchStatus (onRecord : OnRecord failover) (id : QueueId)
    {expected new : QueueStatus} (expectedWell : expected.isAiling = false)
    (newWell : new.isAiling = false) :
    OnRecord (failover.switchStatus id expected new).2 := by
  refine onRecord.of_same ?_ (ailing_switchStatus failover id expectedWell newWell)
  rw [switchStatus_snd]

theorem checkQueue (settings : HealthSettings) (state : CheckReport × Failover) (view : QueueView)
    (onRecord : OnRecord state.2) :
    OnRecord (Failover.checkQueue settings now state view).2 := by
  rw [checkQueue_snd]
  split
  · exact onRecord.handleFailure view.queue
  · exact onRecord.switchStatus view.queue rfl rfl
  · exact onRecord.switchStatus view.queue rfl rfl

theorem placed (onRecord : OnRecord failover)
    (placed : after = failover ∨ ∃ flow target, after = (failover.placeFlow flow target).2) :
    OnRecord after := by
  rcases placed with rfl | ⟨flow, target, rfl⟩
  · exact onRecord
  · exact onRecord.placeFlow flow target

/-- Each operation of failover keeps outages and statuses in agreement. -/
theorem failoverOp (onRecord : OnRecord failover) (op : FailoverOp) :
    OnRecord (op.apply now failover) := by
  cases op with
  | setSettings settings => exact onRecord.of_same rfl fun _ => Iff.rfl
  | handleFailure id => exact onRecord.handleFailure id
  | remapByHand source target? => exact onRecord.remapByHand source target?
  | recover time => exact onRecord.recover time
  | placeFlow flow target => exact onRecord.placeFlow flow target
  | checkHealth settings time =>
      apply checkHealth_induct onRecord
      · exact fun state view reached => checkQueue settings state view reached
      · exact fun _ reached => reached.recover time

/-! ## A late recovery -/

/-- A recovery after the window of every outage closes all of them, and puts all queues into
service. -/
theorem recover_all (onRecord : OnRecord failover) {time : Nat}
    (passed : ∀ id outage, failover.outages.get? id = some outage →
      outage.lastFailure + failover.settings.recoveryWindowMs.toNat < time) :
    (failover.recover time).2.outages = .empty ∧
      ∀ id queue, (failover.recover time).2.registry.queues.get? id = some queue →
        queue.status ≠ .failed ∧ queue.status ≠ .recovering := by
  have closed : (failover.recover time).2.outages = .empty := by
    apply IdMap.ext
    intro id
    rw [get?_outages_recover, IdMap.get?_empty]
    split
    · rfl
    · rename_i left
      refine Option.eq_none_iff_forall_ne_some.2 fun outage found => left ?_
      have late := passed id outage found
      exact mem_recover_iff.2 ⟨outage, found, isOver_iff.2 (by omega)⟩
  refine ⟨closed, ?_⟩
  intro id queue found
  have well : queue.status.isAiling ≠ true := by
    intro ailing
    have isOpen := (onRecord.recover time id).2 ⟨queue, found, ailing⟩
    rw [closed] at isOpen
    cases isOpen
  rw [ne_eq, QueueStatus.isAiling_iff, not_or] at well
  exact well

end OnRecord

end Failover

/-! ## Runs -/

namespace System

theorem onRecord_step {system : System} (onRecord : system.failover.OnRecord)
    (operation : Operation) (indirect : operation.setsStatus = false) :
    (system.step operation).failover.OnRecord := by
  cases operation with
  | registry op =>
      exact onRecord.of_same rfl
        (system.registry.ailing_registryOp system.clock.now op indirect)
  | failover op => exact onRecord.failoverOp op
  | link op => exact onRecord.of_same rfl (op.ailing_apply system.link)
  | device op => exact onRecord
  | applyRate request => exact onRecord.placed (system.limits.apply_cases system.failover request)
  | applyLine line => exact onRecord.placed (system.limits.applyLine_cases system.failover line)
  | clearRate flow => exact onRecord
  | advance millis => exact onRecord
  | advanceMicros micros => exact onRecord
  | setClock time => exact onRecord

/-- In every run in which statuses are left to failover, outages and statuses agree. -/
theorem onRecord_run (blueprint : Blueprint) {operations : List Operation}
    (indirect : ∀ operation ∈ operations, operation.setsStatus = false) :
    ((fresh blueprint).run operations).failover.OnRecord := by
  have kept : ∀ (system : System) operation, operation.setsStatus = false →
      system.failover.OnRecord → (system.step operation).failover.OnRecord :=
    fun _ operation isIndirect onRecord => onRecord_step onRecord operation isIndirect
  have start : (fresh blueprint).failover.OnRecord := by
    intro id
    apply iff_of_false Bool.false_ne_true
    rintro ⟨queue, found, -⟩
    cases found
  exact run_induct kept indirect start

end System

end FlowSteer
