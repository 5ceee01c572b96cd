import FlowSteer.Proofs.CircuitBreaker
import FlowSteer.Proofs.Failover.Strain

/-!
# Queues out of service take in no flow

A flow comes into a table in four ways: it is recorded, it is moved alone, it is moved with all
flows of its queue, or it is placed for a rate. Each of them asks by itself whether the queue is in
service.

1. `Registry.flowIds_apply`: no operation on the registry puts a flow on a queue that is failed.
2. `Leads.flowIds_byLink`: nor does the packet path, which changes no status on the way.
3. `Failover.flowIds_handleFailure`, `Failover.flowIds_remapByHand`: nor does failover, which sets
   the status of one queue and then moves its flows to another.
4. `Failover.Shut.checkQueue`: in a health pass statuses change between the moves. A failed queue
   stays failed there, or is recovering until the pass ends.
5. `System.shutsOut_step`: so a queue that is failed before and after an operation has no flow that
   it did not have, and only a health pass needs the second condition.
-/

namespace FlowSteer

theorem IdMap.ids_filter_subset {α : Type} (map : IdMap α) (keep : Nat → α → Bool) :
    (map.filter keep).ids ⊆ map.ids :=
  (List.filter_sublist.map Prod.fst).subset

namespace Registry

/-- Ids of the flows in the table of a queue; none when there is no such queue. -/
def flowIds (registry : Registry) (id : QueueId) : List FlowId :=
  ((registry.queues.get? id).map (·.flows.flows.ids)).getD []

variable {registry before after : Registry} {id : QueueId} {now : Nat}

theorem flowIds_of_get? {queue : Queue} (found : registry.queues.get? id = some queue) :
    registry.flowIds id = queue.flows.flows.ids := by
  unfold flowIds
  rw [found, Option.map_some, Option.getD_some]

theorem flowIds_of_keeps (same : Keeps (·.flows.flows.ids) before after) (id : QueueId) :
    after.flowIds id ⊆ before.flowIds id := by
  unfold flowIds
  rw [same id]
  exact List.Subset.refl _

theorem flowIds_putQueue (registry : Registry) (id other : QueueId) (queue : Queue) :
    (registry.putQueue id queue).flowIds other =
      if other = id then queue.flows.flows.ids else registry.flowIds other := by
  unfold flowIds
  rw [get?_putQueue]
  split <;> rfl

/-- Changing every queue so that it has no more flows. -/
theorem flowIds_map_subset {change : QueueId → Queue → Queue}
    (fewer : ∀ id queue, (change id queue).flows.flows.ids ⊆ queue.flows.flows.ids)
    (directory : IdMap QueueId) (id : QueueId) :
    { registry with queues := registry.queues.map change, directory }.flowIds id ⊆
      registry.flowIds id := by
  unfold flowIds
  rw [IdMap.get?_map]
  cases registry.queues.get? id with
  | none => exact List.Subset.refl _
  | some queue => exact fewer id queue

/-! ## Operations on the registry -/

/-- A move is allowed only to a queue in service. -/
theorem ne_target_of_failed {source target : QueueId} {sourceQueue targetQueue : Queue}
    (ends : registry.moveEnds source target = .ok (sourceQueue, targetQueue))
    (failed : registry.HasStatus id .failed) : id ≠ target := by
  obtain ⟨-, -, targetFound, inService⟩ := moveEnds_eq_ok_iff.1 ends
  rintro rfl
  obtain ⟨queue, found, status⟩ := failed
  rw [targetFound] at found
  cases found
  rw [Queue.isFailed, status] at inService
  cases inService

/-- Putting back both ends of a move, the source with no more flows than it had. -/
theorem flowIds_ends_subset {source target : QueueId} {sourceQueue targetQueue : Queue}
    (ends : registry.moveEnds source target = .ok (sourceQueue, targetQueue))
    (failed : registry.HasStatus id .failed) {left : FlowTable}
    (fewer : left.flows.ids ⊆ sourceQueue.flows.flows.ids) (moved : FlowTable) :
    ((registry.putQueue source { sourceQueue with flows := left }).putQueue target
      { targetQueue with flows := moved }).flowIds id ⊆ registry.flowIds id := by
  rw [flowIds_putQueue, if_neg (ne_target_of_failed ends failed), flowIds_putQueue]
  split
  · rename_i same
    rw [same, flowIds_of_get? (moveEnds_eq_ok_iff.1 ends).2.1]
    exact fewer
  · exact List.Subset.refl _

theorem flowIds_record (failed : registry.HasStatus id .failed) (other : QueueId) (flow : FlowId)
    (bytes : Nat) (direction : Direction) :
    (registry.record other flow bytes direction now).2.flowIds id ⊆ registry.flowIds id := by
  rcases record_cases registry other flow bytes direction now with
    ⟨_, result⟩ | ⟨queue, found, _, result⟩ | ⟨queue, found, _, inService, _, _, result⟩
  · rw [result]
    exact List.Subset.refl _
  · rw [result]
    show (registry.putQueue other _).flowIds id ⊆ _
    rw [flowIds_putQueue, Queue.flows_addPacket]
    split
    · rename_i same
      rw [same, flowIds_of_get? found]
      show (queue.flows.flows.modify _ _).ids ⊆ _
      rw [IdMap.ids_modify]
      exact List.Subset.refl _
    · exact List.Subset.refl _
  · rw [result]
    have different : id ≠ other := by
      rintro rfl
      obtain ⟨same, present, status⟩ := failed
      rw [found] at present
      cases present
      rw [Queue.isFailed, status] at inService
      cases inService
    show (registry.putQueue other _).flowIds id ⊆ _
    rw [flowIds_putQueue, if_neg different]
    exact List.Subset.refl _

theorem flowIds_moveFlow (failed : registry.HasStatus id .failed) (flow : FlowId)
    (source target : QueueId) :
    (registry.moveFlow flow source target).2.flowIds id ⊆ registry.flowIds id := by
  rcases moveFlow_cases registry flow source target with
    ⟨_, result⟩ | ⟨_, _, moving, ends, _, _, result⟩
  · rw [result]
    exact List.Subset.refl _
  · rw [result]
    exact flowIds_ends_subset ends failed (IdMap.ids_filter_subset _ _) _

theorem flowIds_moveAll (failed : registry.HasStatus id .failed) (source target : QueueId) :
    (registry.moveAll source target).2.flowIds id ⊆ registry.flowIds id := by
  rcases moveAll_cases registry source target with ⟨_, result⟩ | ⟨_, _, ends, result⟩
  · rw [result]
    exact List.Subset.refl _
  · rw [result]
    exact flowIds_ends_subset ends failed (List.nil_subset _) _

theorem flowIds_recordLatency (registry : Registry) (flow : FlowId) (latency : Nat)
    (id : QueueId) :
    (registry.recordLatency flow latency).2.flowIds id ⊆ registry.flowIds id := by
  rcases recordLatency_cases registry flow latency with
    ⟨_, result⟩ | ⟨owner, queue, _, found, _, result⟩
  · rw [result]
    exact List.Subset.refl _
  · rw [result]
    have same : Keeps (·.flows.flows.ids) registry (registry.putQueue owner
        { queue with flows := queue.flows.modify flow (·.addLatency latency) }) :=
      .putQueue found (IdMap.ids_modify _ _ _)
    exact flowIds_of_keeps same id

/-- No operation on the registry puts a flow on a queue that is failed. -/
theorem flowIds_apply (failed : registry.HasStatus id .failed) (op : RegistryOp) :
    (op.apply now registry).flowIds id ⊆ registry.flowIds id := by
  have health : Queue.BlindToHealth (·.flows.flows.ids) := fun _ _ _ => rfl
  have adjusted : ∀ {change : Queue → Queue} (other : QueueId),
      (∀ queue, (change queue).flows = queue.flows) →
      (registry.adjust other change).flowIds id ⊆ registry.flowIds id := by
    intro change other same
    have kept : ∀ queue, (change queue).flows.flows.ids = queue.flows.flows.ids := by
      intro queue
      rw [same]
    exact flowIds_of_keeps (keeps_adjust kept other) id
  cases op with
  | register other node =>
      rcases registry.register_cases other node with ⟨_, result⟩ | ⟨absent, result⟩
      · show (registry.register other node).2.flowIds id ⊆ _
        rw [result]
        exact List.Subset.refl _
      · show (registry.register other node).2.flowIds id ⊆ _
        rw [result, flowIds_putQueue]
        split
        · exact List.nil_subset _
        · exact List.Subset.refl _
  | record other flow bytes direction => exact flowIds_record failed other flow bytes direction
  | recordLatency flow latency => exact registry.flowIds_recordLatency flow latency id
  | countError other direction =>
      show (registry.countError other direction).2.flowIds id ⊆ _
      rw [countError, updateQueue_snd]
      exact adjusted other fun _ => rfl
  | countDrop other direction =>
      show (registry.countDrop other direction).2.flowIds id ⊆ _
      rw [countDrop, updateQueue_snd]
      exact adjusted other fun _ => rfl
  | addWork other work =>
      show (registry.addWork other work).2.flowIds id ⊆ _
      rw [addWork, updateQueue_snd]
      exact adjusted other fun _ => rfl
  | finishWork other work =>
      show (registry.finishWork other work).2.flowIds id ⊆ _
      rw [finishWork_snd]
      exact adjusted other fun _ => rfl
  | setStatus other status =>
      exact flowIds_of_keeps (keeps_setStatus health other status) id
  | clearErrors other status =>
      exact flowIds_of_keeps (keeps_clearErrors health other status) id
  | updateStatus other choose =>
      exact flowIds_of_keeps (keeps_updateStatus health other choose) id
  | moveFlow flow source target => exact flowIds_moveFlow failed flow source target
  | moveAll source target => exact flowIds_moveAll failed source target
  | forgetIdle time timeout =>
      exact flowIds_map_subset (fun _ _ => IdMap.ids_filter_subset _ _) _ id
  | forgetAll => exact flowIds_map_subset (fun _ _ => List.nil_subset _) _ id
  | bindAll planner => exact flowIds_of_keeps (keeps_bind (fun _ _ => rfl) _) id
  | rebalance planner => exact flowIds_of_keeps (keeps_bind (fun _ _ => rfl) _) id

/-- The packet path puts no flow on a queue that is failed, whatever it does one after another. -/
theorem Leads.flowIds_byLink (leads : Leads RegistryOp.byLink now before after)
    (failed : before.HasStatus id .failed) : after.flowIds id ⊆ before.flowIds id := by
  have kept : ∀ (later : Registry) (op : RegistryOp), op.byLink = true →
      later.HasStatus id .failed ∧ later.flowIds id ⊆ before.flowIds id →
      (op.apply now later).HasStatus id .failed ∧
        (op.apply now later).flowIds id ⊆ before.flowIds id := by
    rintro later op allowed ⟨⟨queue, found, status⟩, fewer⟩
    have statuses : Keeps Queue.status later (op.apply now later) :=
      keeps_byLink status_blindToTraffic (fun _ _ => rfl) op allowed
    obtain ⟨next, present, same⟩ := statuses.of_before found
    exact ⟨⟨next, present, same.trans status⟩,
      List.Subset.trans (flowIds_apply ⟨queue, found, status⟩ op) fewer⟩
  exact (leads.induct kept ⟨failed, List.Subset.refl _⟩).2

end Registry

/-! ## Failover -/

namespace Failover

variable {failover after : Failover} {id : QueueId} {now : Nat}

/-- A queue that is failed still is when another outage, or its own, is noted. -/
theorem failed_note {other : QueueId} {change : Queue → Queue} {outage : Outage}
    (notes : failover.Notes after other change outage)
    (status : ∀ queue, (change queue).status = .failed)
    (failed : failover.registry.HasStatus id .failed) : after.registry.HasStatus id .failed := by
  by_cases same : id = other
  · obtain ⟨queue, -, changed⟩ := notes.changed
    exact ⟨_, same ▸ changed, status queue⟩
  · exact failed.of_strain (KeepsOthers.note notes id same)

/-- Noting an outage moves no flow. -/
theorem flowIds_note {other : QueueId} {change : Queue → Queue} {outage : Outage}
    (notes : failover.Notes after other change outage)
    (flows : ∀ queue, (change queue).flows = queue.flows) (id : QueueId) :
    after.registry.flowIds id ⊆ failover.registry.flowIds id := by
  obtain ⟨-, rfl⟩ := notes_iff.1 notes
  have kept : ∀ queue, (change queue).flows.flows.ids = queue.flows.flows.ids := by
    intro queue
    rw [flows]
  exact Registry.flowIds_of_keeps (Registry.keeps_adjust kept other) id

/-- All flows of a queue move to one in service. -/
theorem flowIds_movedAll (failed : failover.registry.HasStatus id .failed)
    (source target : QueueId) (moved : Nat) (cause : RemapCause) (time : Nat) :
    (failover.movedAll source target moved cause time).registry.flowIds id ⊆
      failover.registry.flowIds id := by
  have cleared : Registry.Keeps (·.flows.flows.ids) (failover.registry.moveAll source target).2
      ((failover.registry.moveAll source target).2.clearErrors source .recovering).2 :=
    Registry.keeps_clearErrors (fun _ _ _ => rfl) source .recovering
  exact List.Subset.trans (Registry.flowIds_of_keeps cleared id)
    (Registry.flowIds_moveAll failed source target)

theorem flowIds_handleFailure (failed : failover.registry.HasStatus id .failed)
    (other : QueueId) (now : Nat) :
    (failover.handleFailure other now).2.registry.flowIds id ⊆ failover.registry.flowIds id := by
  have noted : ∀ {queue}, failover.registry.queues.get? other = some queue → ∀ status,
      (failover.noteFailure other now status).registry.flowIds id ⊆ failover.registry.flowIds id :=
    fun found status => flowIds_note (.noteFailure ⟨_, found⟩ now status) (fun _ => rfl) id
  rcases failover.handleFailure_cases other now with
    ⟨_, result⟩ | ⟨queue, found, ⟨_, result⟩ | ⟨_, _, result⟩ | ⟨_, _, _, result⟩ |
      ⟨_, _, target, moved, _, _, result⟩⟩
  · rw [result]
    exact List.Subset.refl _
  · rw [result]
    exact noted found .recovering
  · rw [result]
    exact noted found .failed
  · rw [result]
    exact noted found .failed
  · rw [result]
    have still : (failover.noteFailure other now .failed).registry.HasStatus id .failed :=
      failed_note (.noteFailure ⟨queue, found⟩ now .failed) (fun _ => rfl) failed
    have left := flowIds_movedAll still other target moved .automatic now
    exact List.Subset.trans left (noted found .failed)

theorem flowIds_remapByHand (failed : failover.registry.HasStatus id .failed)
    (source : QueueId) (target? : Option QueueId) (now : Nat) :
    (failover.remapByHand source target? now).2.registry.flowIds id ⊆
      failover.registry.flowIds id := by
  rcases failover.remapByHand_cases source target? now with
    ⟨_, _, result⟩ | ⟨checked, _, result⟩ | ⟨checked, target, moved, _, _, result⟩
  · rw [result]
    exact List.Subset.refl _
  · rw [result]
    have notes := Notes.noteManual (source_of_checkRemap checked) now
    exact flowIds_note notes (fun _ => rfl) id
  · rw [result]
    have notes := Notes.noteManual (source_of_checkRemap checked) now
    have still := failed_note notes (fun _ => rfl) failed
    have left := flowIds_movedAll still source target moved .manual now
    exact List.Subset.trans left (flowIds_note notes (fun _ => rfl) id)

theorem flowIds_placeFlow (failed : failover.registry.HasStatus id .failed) (flow : FlowId)
    (target : QueueId) :
    (failover.placeFlow flow target).2.registry.flowIds id ⊆ failover.registry.flowIds id := by
  rcases failover.placeFlow_cases flow target with ⟨_, result⟩ | result | ⟨source, _, result⟩
  · rw [result]
    exact List.Subset.refl _
  · rw [result]
    exact List.Subset.refl _
  · rw [result]
    exact Registry.flowIds_moveFlow failed flow source target

theorem flowIds_placed
    (placed : after = failover ∨ ∃ flow target, after = (failover.placeFlow flow target).2)
    (failed : failover.registry.HasStatus id .failed) :
    after.registry.flowIds id ⊆ failover.registry.flowIds id := by
  rcases placed with rfl | ⟨flow, target, rfl⟩
  · exact List.Subset.refl _
  · exact flowIds_placeFlow failed flow target

/-! ## The health pass -/

/-- The queue is failed, and has no flows but some, or it is recovering. -/
def Shut (flows : List FlowId) (id : QueueId) (failover : Failover) : Prop :=
  (failover.registry.HasStatus id .failed ∧ failover.registry.flowIds id ⊆ flows) ∨
    failover.registry.HasStatus id .recovering

namespace Shut

variable {flows : List FlowId}

/-- A failure of some queue. The queue itself takes in flows only while it is recovering, and then
it stays so. -/
theorem handleFailure (shut : Shut flows id failover) (other : QueueId) (now : Nat) :
    Shut flows id (failover.handleFailure other now).2 := by
  rcases shut with ⟨failed, fewer⟩ | recovering
  · have kept := List.Subset.trans (flowIds_handleFailure failed other now) fewer
    by_cases same : id = other
    · subst same
      obtain ⟨queue, found, -⟩ := failed
      have ailing := (sidelined_handleFailure found now).ailing
      exact (Registry.ailing_iff_hasStatus.1 ailing).imp_left fun still => ⟨still, kept⟩
    · exact .inl ⟨failed.of_strain (KeepsOthers.handleFailure failover other now id same), kept⟩
  · by_cases same : id = other
    · subst same
      exact .inr (recovering_handleFailure recovering now)
    · exact .inr (recovering.of_strain (KeepsOthers.handleFailure failover other now id same))

/-- A switch between statuses of queues in service. -/
theorem switchStatus (shut : Shut flows id failover) (other : QueueId)
    {expected : QueueStatus} (well : expected.isAiling = false) (new : QueueStatus) :
    Shut flows id (failover.switchStatus other expected new).2 := by
  have moved : (failover.switchStatus other expected new).2.registry.flowIds id ⊆
      failover.registry.flowIds id := by
    rw [switchStatus_snd]
    exact Registry.flowIds_of_keeps (Registry.keeps_updateStatus (fun _ _ _ => rfl) other _) id
  have kept : ∀ {status : QueueStatus}, status.isAiling = true →
      failover.registry.HasStatus id status →
      (failover.switchStatus other expected new).2.registry.HasStatus id status := by
    intro status ill has
    by_cases same : id = other
    · subst same
      have different : status ≠ expected := by
        rintro rfl
        rw [well] at ill
        cases ill
      rw [switchStatus_of_status_ne has different]
      exact has
    · exact has.of_strain (KeepsOthers.switchStatus failover other expected new id same)
  rcases shut with ⟨failed, fewer⟩ | recovering
  · exact .inl ⟨kept rfl failed, List.Subset.trans moved fewer⟩
  · exact .inr (kept rfl recovering)

theorem checkQueue (settings : HealthSettings) (now : Nat) (state : CheckReport × Failover)
    (view : QueueView) (shut : Shut flows id state.2) :
    Shut flows id (Failover.checkQueue settings now state view).2 := by
  rw [checkQueue_snd]
  split
  · exact shut.handleFailure view.queue now
  · exact shut.switchStatus view.queue rfl .degraded
  · exact shut.switchStatus view.queue rfl .active

/-- Recovery puts queues into service or leaves them alone, so that a queue which is failed after
it was failed before. -/
theorem flowIds_recover (shut : Shut flows id failover) {time : Nat}
    (failed : (failover.recover time).2.registry.HasStatus id .failed) :
    (failover.recover time).2.registry.flowIds id ⊆ flows := by
  obtain ⟨queue, found, status⟩ := failed
  have unrecovered : id ∉ (failover.recover time).1 := by
    intro recovered
    rw [active_of_mem_recover recovered found] at status
    cases status
  have moved : (failover.recover time).2.registry.flowIds id ⊆ failover.registry.flowIds id := by
    apply Registry.flowIds_map_subset
    intro other queue
    split <;> exact List.Subset.refl _
  rcases shut with ⟨-, fewer⟩ | recovering
  · exact List.Subset.trans moved fewer
  · obtain ⟨old, present, wasRecovering⟩ := recovering
    have same : queue = old := by
      change (failover.registry.queues.map _).get? id = some queue at found
      rw [IdMap.get?_map, present, Option.map_some, if_neg, Option.some.injEq] at found
      · exact found.symm
      · exact fun finished => unrecovered (IdMap.contains_iff.1 finished)
    rw [same, wasRecovering] at status
    cases status

end Shut

/-- A queue that is failed before and after a health pass has no flow that it did not have. -/
theorem flowIds_checkHealth (failed : failover.registry.HasStatus id .failed)
    {settings : HealthSettings} {time : Nat}
    (still : (failover.checkHealth settings now time).2.registry.HasStatus id .failed) :
    (failover.checkHealth settings now time).2.registry.flowIds id ⊆
      failover.registry.flowIds id := by
  cases enabled : failover.settings.enabled with
  | false =>
      unfold checkHealth
      rw [enabled]
      exact List.Subset.refl _
  | true =>
      rw [checkHealth_of_enabled enabled] at still ⊢
      have start : Shut (failover.registry.flowIds id) id failover :=
        .inl ⟨failed, List.Subset.refl _⟩
      have looked : ∀ (views : List QueueView) (state : CheckReport × Failover),
          Shut (failover.registry.flowIds id) id state.2 →
          Shut (failover.registry.flowIds id) id
            (views.foldl (checkQueue settings now) state).2 := by
        intro views
        induction views with
        | nil => exact fun _ shut => shut
        | cons view rest ih =>
            exact fun state shut => ih _ (Shut.checkQueue settings now state view shut)
      exact (looked failover.registry.views ({}, failover) start).flowIds_recover still

/-- What failover does outside health passes puts no flow on a queue that is failed. -/
theorem flowIds_failoverOp (failed : failover.registry.HasStatus id .failed) {op : FailoverOp}
    (noPass : ∀ settings time, op ≠ .checkHealth settings time) :
    (op.apply now failover).registry.flowIds id ⊆ failover.registry.flowIds id := by
  cases op with
  | setSettings settings => exact List.Subset.refl _
  | handleFailure other => exact flowIds_handleFailure failed other now
  | remapByHand source target? => exact flowIds_remapByHand failed source target? now
  | recover time =>
      apply Registry.flowIds_map_subset
      intro other queue
      split <;> exact List.Subset.refl _
  | placeFlow flow target => exact flowIds_placeFlow failed flow target
  | checkHealth settings time => exact absurd rfl (noPass settings time)

end Failover

/-! ## The system -/

/-- Is the operation a health pass. -/
def Operation.isPass : Operation → Bool
  | failover (.checkHealth ..) => true
  | _ => false

namespace System

variable {system : System} {operation : Operation} {id : QueueId}

/-- What is not a health pass puts no flow on a queue that is failed. -/
theorem flowIds_step (failed : system.registry.HasStatus id .failed)
    (noPass : operation.isPass = false) :
    (system.step operation).registry.flowIds id ⊆ system.registry.flowIds id := by
  cases operation with
  | registry op => exact Registry.flowIds_apply failed op
  | link op => exact (op.leads system.link).flowIds_byLink failed
  | failover op =>
      refine Failover.flowIds_failoverOp failed ?_
      rintro settings time rfl
      cases noPass
  | applyRate request =>
      exact Failover.flowIds_placed (system.limits.apply_cases system.failover request) failed
  | applyLine line =>
      exact Failover.flowIds_placed (system.limits.applyLine_cases system.failover line) failed
  | _ => exact List.Subset.refl _

/-- A queue that is failed before and after an operation has no flow that it did not have. -/
theorem flowIds_step_of_failed (failed : system.registry.HasStatus id .failed)
    (still : (system.step operation).registry.HasStatus id .failed) :
    (system.step operation).registry.flowIds id ⊆ system.registry.flowIds id := by
  cases pass : operation.isPass with
  | false => exact flowIds_step failed pass
  | true =>
      cases operation with
      | failover op =>
          cases op with
          | checkHealth settings time => exact Failover.flowIds_checkHealth failed still
          | _ => cases pass
      | _ => cases pass

/-- An operation puts no flow on a queue that is failed. -/
structure ShutsOut (system : System) (operation : Operation) (id : QueueId) : Prop where
  /-- The queue is failed before and after the operation. -/
  throughout : system.registry.HasStatus id .failed →
    (system.step operation).registry.HasStatus id .failed →
    (system.step operation).registry.flowIds id ⊆ system.registry.flowIds id
  /-- Outside health passes it is enough that the queue is failed before. -/
  direct : operation.isPass = false → system.registry.HasStatus id .failed →
    (system.step operation).registry.flowIds id ⊆ system.registry.flowIds id
  /-- The same goes for each failure that the operation handles, also in the middle of a pass. -/
  handled : ∀ handling ∈ system.handlingsAt operation,
    handling.before.registry.HasStatus id .failed →
    handling.after.registry.flowIds id ⊆ handling.before.registry.flowIds id

/-- No operation puts a flow on a queue that is failed, in whatever state it starts. -/
theorem shutsOut_step (system : System) (operation : Operation) (id : QueueId) :
    system.ShutsOut operation id where
  throughout := flowIds_step_of_failed
  direct := fun noPass failed => flowIds_step failed noPass
  handled := fun handling _ failed =>
    Failover.flowIds_handleFailure failed handling.queue handling.now

/-- Each of these operations would put a flow on the first queue, which is failed before and after
it: packets, moves, requests for a rate there, and a health pass that takes the second queue out of
service, with the flow, which then goes to the third queue. -/
example :
    let blueprint : Blueprint := {
      capacity := 3, maxFlows := 4, buffersPerNode := 1, ringCapacity := 1 }
    let system := (fresh blueprint).run [.registry (.register 0 0), .registry (.register 1 0),
      .registry (.register 2 0), .registry (.record 1 7 60 .rx), .registry (.countError 1 .rx),
      .registry (.countError 1 .rx), .registry (.setStatus 0 .failed)]
    ∀ operation ∈ [.registry (.record 0 8 60 .rx), .registry (.moveFlow 7 1 0),
        .registry (.moveAll 1 0), .failover (.remapByHand 1 (some 0)), .failover (.placeFlow 7 0),
        .applyRate { flow := 7, rate := 5, queue := some 0 },
        .failover (.checkHealth { failureThreshold := 1, degradedThreshold := 0 } 0)],
      system.registry.HasStatus 0 .failed ∧
        (system.step operation).registry.HasStatus 0 .failed ∧
        (system.step operation).registry.flowIds 0 = [] := by
  decide

end System

end FlowSteer
