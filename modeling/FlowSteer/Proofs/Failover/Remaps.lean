import FlowSteer.Failover.Monitor
import FlowSteer.Proofs.Registry.Queues

/-!
# What failover leaves

Each operation of failover is described once by the states that it can leave:

* `remap_cases`: a refused remap leaves no trace; otherwise all flows have moved, the source is
  recovering and the remap is in the history;
* `handleFailure_cases`: a failure of a queue that is there is on record in every case; what else
  happens depends on the status of the queue, on the cap and on the remap;
* `remapByHand_cases`: the same for a remap by hand;
* `Notes.noteFailure`, `Notes.noteManual`: a failure, or a remap by hand, that comes no further
  changes one queue and its outage;
* `recover_registry`: recovery is `clearErrors` of every queue whose outage is over;
* `get?_outages_recover`, `get?_queues_recover`: the same for each outage and each queue.
-/

namespace FlowSteer

namespace Failover

variable {failover : Failover}

/-- Failover after one more failure of a queue is on record and the queue has a status. -/
def noteFailure (failover : Failover) (id : QueueId) (now : Nat) (status : QueueStatus) :
    Failover :=
  (failover.putOutage id (failover.afterFailure id now)).clearErrors id status

/-- Failover after a remap by hand of a queue is on record and the queue is out of service. -/
def noteManual (failover : Failover) (id : QueueId) (now : Nat) : Failover :=
  let noted := failover.putOutage id (failover.afterManual id now)
  { noted with registry := (noted.registry.setStatus id .failed).2 }

/-- Failover after all flows of a queue have moved to a target. -/
def movedAll (failover : Failover) (source target : QueueId) (moved : Nat) (cause : RemapCause)
    (now : Nat) : Failover :=
  (({ failover with registry := (failover.registry.moveAll source target).2 } :
    Failover).clearErrors source .recovering).pushHistory
      { source, target, flowsMoved := moved, cause, time := now }

/-- One queue has changed and its outage is on record; all the rest is as it was. -/
structure Notes (before after : Failover) (id : QueueId) (change : Queue → Queue)
    (outage : Outage) : Prop where
  changed : ∃ queue, before.registry.queues.get? id = some queue ∧
    after.registry.queues.get? id = some (change queue)
  otherQueues : ∀ other, other ≠ id →
    after.registry.queues.get? other = before.registry.queues.get? other
  recorded : after.outages.get? id = some outage
  otherOutages : ∀ other, other ≠ id → after.outages.get? other = before.outages.get? other
  rest : after = { before with
    registry := { before.registry with queues := after.registry.queues }
    outages := after.outages }

/-- There is one state that notes a change of a queue, once the queue is there. -/
theorem notes_iff {before after : Failover} {id : QueueId} {change : Queue → Queue}
    {outage : Outage} :
    before.Notes after id change outage ↔
      (∃ queue, before.registry.queues.get? id = some queue) ∧
        after = { before with
          registry := before.registry.adjust id change
          outages := before.outages.insert id outage } := by
  constructor
  · intro notes
    obtain ⟨queue, found, changed⟩ := notes.changed
    have queues : after.registry.queues = (before.registry.adjust id change).queues := by
      apply IdMap.ext
      intro other
      rw [Registry.get?_adjust]
      by_cases same : other = id
      · rw [if_pos same, same, changed, found, Option.map_some]
      · rw [if_neg same, notes.otherQueues other same]
    have outages : after.outages = before.outages.insert id outage := by
      apply IdMap.ext
      intro other
      rw [IdMap.get?_insert]
      by_cases same : other = id
      · rw [if_pos same, same, notes.recorded]
      · rw [if_neg same, notes.otherOutages other same]
    refine ⟨⟨queue, found⟩, ?_⟩
    rw [notes.rest, queues, outages]
    rfl
  · rintro ⟨⟨queue, found⟩, rfl⟩
    constructor
    case changed =>
      refine ⟨queue, found, ?_⟩
      rw [Registry.get?_adjust, if_pos rfl, found, Option.map_some]
    case otherQueues =>
      intro other different
      rw [Registry.get?_adjust, if_neg different]
    case recorded => exact IdMap.get?_insert_self _ _ _
    case otherOutages =>
      intro other different
      exact IdMap.get?_insert_of_ne different _ _
    case rest => rfl

theorem Notes.unique {before first second : Failover} {id : QueueId} {change : Queue → Queue}
    {outage : Outage} (notes : before.Notes first id change outage)
    (again : before.Notes second id change outage) : first = second :=
  (notes_iff.1 notes).2.trans (notes_iff.1 again).2.symm

theorem Notes.noteFailure {id : QueueId}
    (present : ∃ queue, failover.registry.queues.get? id = some queue) (now : Nat)
    (status : QueueStatus) :
    failover.Notes (failover.noteFailure id now status) id (·.clearErrors status)
      (failover.afterFailure id now) := by
  refine notes_iff.2 ⟨present, ?_⟩
  rw [← Registry.clearErrors_snd]
  rfl

theorem Notes.noteManual {id : QueueId}
    (present : ∃ queue, failover.registry.queues.get? id = some queue) (now : Nat) :
    failover.Notes (failover.noteManual id now) id ({ · with status := .failed })
      (failover.afterManual id now) := by
  refine notes_iff.2 ⟨present, ?_⟩
  rw [← Registry.setStatus_snd]
  rfl

theorem lastFailure_afterFailure (failover : Failover) (id : QueueId) (now : Nat) :
    (failover.afterFailure id now).lastFailure = now := by
  unfold afterFailure
  cases failover.outages.get? id <;> rfl

theorem lastFailure_afterManual (failover : Failover) (id : QueueId) (now : Nat) :
    (failover.afterManual id now).lastFailure = now := by
  unfold afterManual
  cases failover.outages.get? id <;> rfl

/-- A failure counts one more, as a 32-bit word. -/
theorem failures_afterFailure (failover : Failover) (id : QueueId) (now : Nat) :
    (failover.afterFailure id now).failures =
      ((failover.outages.get? id).elim 0 (·.failures) + 1) % wordSize32 := by
  unfold afterFailure
  cases failover.outages.get? id <;> rfl

theorem remap_cases (failover : Failover) (source : QueueId) (target? : Option QueueId)
    (cause : RemapCause) (now : Nat) :
    (∃ error, failover.remap source target? cause now = (.error error, failover)) ∨
    ∃ target moved, failover.remapTarget source target? = .ok target ∧
      (failover.registry.moveAll source target).1 = .ok moved ∧
      failover.remap source target? cause now =
        (.ok (.remapped source target moved), failover.movedAll source target moved cause now) := by
  unfold remap movedAll
  cases chosen : failover.remapTarget source target? with
  | error error => exact .inl ⟨error, rfl⟩
  | ok target =>
      simp only []
      cases result : failover.registry.moveAll source target with
      | mk outcome registry =>
          cases outcome with
          | error error => exact .inl ⟨error, rfl⟩
          | ok moved => exact .inr ⟨target, moved, rfl, by rw [result], by rw [result]⟩

theorem handleFailure_of_absent {id : QueueId} (absent : failover.registry.queues.get? id = none)
    (now : Nat) : failover.handleFailure id now = (.error (.noSuchQueue id), failover) := by
  unfold handleFailure
  rw [Registry.queue_of_absent absent]

/-- A failure of a recovering queue only prolongs its outage. -/
theorem handleFailure_of_recovering {id : QueueId} {queue : Queue}
    (found : failover.registry.queues.get? id = some queue)
    (recovering : queue.status = .recovering) (now : Nat) :
    failover.handleFailure id now =
      (.ok (.refreshed id (failover.afterFailure id now).failures),
        failover.noteFailure id now .recovering) := by
  unfold handleFailure
  rw [Registry.queue_of_get? found]
  exact if_pos recovering

/-- At the cap a failure moves nothing. -/
theorem handleFailure_of_capped {id : QueueId} {queue : Queue}
    (found : failover.registry.queues.get? id = some queue)
    (notRecovering : queue.status ≠ .recovering)
    (capped : failover.settings.maxFailoverCount.toNat ≤ failover.failovers) (now : Nat) :
    failover.handleFailure id now =
      (.ok (.suppressed id (failover.afterFailure id now).failures),
        failover.noteFailure id now .failed) := by
  unfold handleFailure
  rw [Registry.queue_of_get? found]
  exact (if_neg notRecovering).trans (if_pos capped)

/-- Below the cap a failure leads to a remap. -/
theorem handleFailure_of_uncapped {id : QueueId} {queue : Queue}
    (found : failover.registry.queues.get? id = some queue)
    (notRecovering : queue.status ≠ .recovering)
    (uncapped : failover.failovers < failover.settings.maxFailoverCount.toNat) (now : Nat) :
    failover.handleFailure id now =
      match (failover.noteFailure id now .failed).remap id none .automatic now with
      | (.error error, left) => (.error error, left)
      | (.ok outcome, moved) => (.ok outcome, { moved with failovers := moved.failovers + 1 }) := by
  unfold handleFailure
  rw [Registry.queue_of_get? found]
  exact (if_neg notRecovering).trans (if_neg (Nat.not_le.2 uncapped))

/-- The states that handling a failure can leave: as before when there is no such queue, or the
failure on record with the queue recovering still, failed, or moved. -/
theorem handleFailure_cases (failover : Failover) (id : QueueId) (now : Nat) :
    (failover.registry.queues.get? id = none ∧
      failover.handleFailure id now = (.error (.noSuchQueue id), failover)) ∨
    ∃ queue, failover.registry.queues.get? id = some queue ∧
      ((queue.status = .recovering ∧
          failover.handleFailure id now =
            (.ok (.refreshed id (failover.afterFailure id now).failures),
              failover.noteFailure id now .recovering)) ∨
        (queue.status ≠ .recovering ∧
          failover.settings.maxFailoverCount.toNat ≤ failover.failovers ∧
          failover.handleFailure id now =
            (.ok (.suppressed id (failover.afterFailure id now).failures),
              failover.noteFailure id now .failed)) ∨
        (queue.status ≠ .recovering ∧
          failover.failovers < failover.settings.maxFailoverCount.toNat ∧
          ∃ error, failover.handleFailure id now =
            (.error error, failover.noteFailure id now .failed)) ∨
        (queue.status ≠ .recovering ∧
          failover.failovers < failover.settings.maxFailoverCount.toNat ∧
          ∃ target moved,
            (failover.noteFailure id now .failed).remapTarget id none = .ok target ∧
            ((failover.noteFailure id now .failed).registry.moveAll id target).1 = .ok moved ∧
            failover.handleFailure id now =
              (.ok (.remapped id target moved),
                { (failover.noteFailure id now .failed).movedAll id target moved .automatic now
                  with failovers := failover.failovers + 1 }))) := by
  cases found : failover.registry.queues.get? id with
  | none => exact .inl ⟨rfl, handleFailure_of_absent found now⟩
  | some queue =>
      refine .inr ⟨queue, rfl, ?_⟩
      by_cases recovering : queue.status = .recovering
      · exact .inl ⟨recovering, handleFailure_of_recovering found recovering now⟩
      · by_cases capped : failover.settings.maxFailoverCount.toNat ≤ failover.failovers
        · exact .inr (.inl ⟨recovering, capped,
            handleFailure_of_capped found recovering capped now⟩)
        · have uncapped := Nat.lt_of_not_le capped
          rw [handleFailure_of_uncapped found recovering uncapped]
          rcases remap_cases (failover.noteFailure id now .failed) id none .automatic now with
            ⟨error, result⟩ | ⟨target, moved, chosen, counted, result⟩
          · rw [result]
            exact .inr (.inr (.inl ⟨recovering, uncapped, error, rfl⟩))
          · rw [result]
            exact .inr (.inr (.inr ⟨recovering, uncapped, target, moved, chosen, counted, rfl⟩))

/-- The states that a remap by hand can leave: as before when its arguments are refused, or the
source on record and failed, or moved. -/
theorem remapByHand_cases (failover : Failover) (source : QueueId) (target? : Option QueueId)
    (now : Nat) :
    (∃ error, failover.checkRemap source target? = .error error ∧
      failover.remapByHand source target? now = (.error error, failover)) ∨
    (failover.checkRemap source target? = .ok () ∧
      ∃ error, failover.remapByHand source target? now =
        (.error error, failover.noteManual source now)) ∨
    (failover.checkRemap source target? = .ok () ∧
      ∃ target moved,
        (failover.noteManual source now).remapTarget source target? = .ok target ∧
        ((failover.noteManual source now).registry.moveAll source target).1 = .ok moved ∧
        failover.remapByHand source target? now =
          (.ok (.remapped source target moved),
            (failover.noteManual source now).movedAll source target moved .manual now)) := by
  unfold remapByHand
  cases checked : failover.checkRemap source target? with
  | error error => exact .inl ⟨error, rfl, rfl⟩
  | ok _ =>
      rcases remap_cases (failover.noteManual source now) source target? .manual now with
        ⟨error, result⟩ | ⟨target, moved, chosen, counted, result⟩
      · exact .inr (.inl ⟨rfl, error, result⟩)
      · exact .inr (.inr ⟨rfl, target, moved, chosen, counted, result⟩)

/-- A remap by hand goes on only when its source is there. -/
theorem source_of_checkRemap {source : QueueId} {target? : Option QueueId}
    (checked : failover.checkRemap source target? = .ok ()) :
    ∃ queue, failover.registry.queues.get? source = some queue := by
  unfold checkRemap at checked
  split at checked
  · cases checked
  · cases found : failover.registry.queues.get? source with
    | none => simp [Registry.queue_of_absent found] at checked
    | some queue => exact ⟨queue, rfl⟩

/-! ## Placing one flow -/

/-- The states that placing a flow can leave: as before when it is refused or the flow is in place
already, or with the flow moved from the queue that held it. -/
theorem placeFlow_cases (failover : Failover) (flow : FlowId) (target : QueueId) :
    (∃ error, failover.placeFlow flow target = (.error error, failover)) ∨
    failover.placeFlow flow target = (.ok none, failover) ∨
    ∃ source, failover.registry.holderOf flow = some source ∧
      failover.placeFlow flow target = (.ok (some source),
        { failover with registry := (failover.registry.moveFlow flow source target).2 }) := by
  unfold placeFlow
  cases failover.registry.queue target with
  | error error => exact .inl ⟨error, rfl⟩
  | ok queue =>
      cases held : failover.registry.holderOf flow with
      | none => exact .inl ⟨_, rfl⟩
      | some source =>
          by_cases same : source = target
          · exact .inr (.inl (if_pos same))
          · simp only [same, if_false]
            cases result : failover.registry.moveFlow flow source target with
            | mk outcome registry =>
                cases outcome with
                | error error => exact .inl ⟨error, rfl⟩
                | ok _ => exact .inr (.inr ⟨source, rfl, by rw [result]⟩)

/-! ## Recovery -/

/-- Clearing the errors of some queues one after another. -/
theorem foldl_clearErrors (registry : Registry) (ids : List QueueId) (status : QueueStatus) :
    ids.foldl (fun registry id => (registry.clearErrors id status).2) registry =
      { registry with queues := registry.queues.map fun id queue =>
          if ids.contains id then queue.clearErrors status else queue } := by
  induction ids generalizing registry with
  | nil =>
      have same : registry.queues.map (fun _ queue => queue) = registry.queues := by
        apply IdMap.ext
        intro id
        rw [IdMap.get?_map]
        exact Option.map_id'
      simp only [List.foldl_nil, List.contains_nil, Bool.false_eq_true, if_false, same]
  | cons first rest ih =>
      rw [List.foldl_cons, ih, Registry.clearErrors_snd]
      unfold Registry.adjust
      congr 1
      apply IdMap.ext
      intro id
      rw [IdMap.get?_map, IdMap.get?_map, IdMap.get?_modify, List.contains_cons]
      by_cases same : id = first
      · rw [if_pos same, Option.map_map, beq_iff_eq.2 same, Bool.true_or]
        apply Option.map_congr
        intro queue _
        -- Clearing a second time changes nothing.
        have again : (queue.clearErrors status).clearErrors status = queue.clearErrors status := rfl
        simp only [Function.comp_apply, again, ite_self, if_true]
      · rw [if_neg same, beq_eq_false_iff_ne.2 same, Bool.false_or]

/-- Recovery clears the errors of the queues that it returns, and puts them into service. -/
theorem recover_registry (failover : Failover) (now : Nat) :
    (failover.recover now).2.registry =
      (failover.recover now).1.foldl
        (fun registry id => (registry.clearErrors id .active).2) failover.registry := by
  rw [foldl_clearErrors]
  have listed : ∀ id, (failover.recover now).1.contains id =
      (failover.outages.filter fun _ outage => failover.isOver now outage).contains id := by
    intro id
    rw [Bool.eq_iff_iff, IdMap.contains_iff, List.contains_iff_mem]
    exact Iff.rfl
  simp only [listed]
  rfl

theorem isOver_iff {time : Nat} {outage : Outage} : failover.isOver time outage = true ↔
    failover.settings.recoveryWindowMs.toNat < time - outage.lastFailure :=
  decide_eq_true_iff

/-- The queues that are returned are those of the outages that are over. -/
theorem mem_recover_iff {time : Nat} {id : QueueId} :
    id ∈ (failover.recover time).1 ↔
      ∃ outage, failover.outages.get? id = some outage ∧ failover.isOver time outage = true := by
  show id ∈ (failover.outages.filter fun _ outage => failover.isOver time outage).ids ↔ _
  rw [← IdMap.contains_iff, IdMap.contains, IdMap.get?_filter, Option.isSome_iff_exists]
  simp only [Option.filter_eq_some_iff]

/-- The outages of the queues that are returned are closed, the others stay as they are. -/
theorem get?_outages_recover (failover : Failover) (time : Nat) (id : QueueId) :
    (failover.recover time).2.outages.get? id =
      if id ∈ (failover.recover time).1 then none else failover.outages.get? id := by
  have left : (failover.recover time).2.outages.get? id = _ :=
    IdMap.get?_filter failover.outages _ id
  simp only [left, mem_recover_iff]
  cases failover.outages.get? id with
  | none => rfl
  | some outage => cases finished : failover.isOver time outage <;> simp [finished]

/-- The queues that are returned are reset, the others stay as they are. -/
theorem get?_queues_recover (failover : Failover) (time : Nat) (id : QueueId) :
    (failover.recover time).2.registry.queues.get? id =
      if id ∈ (failover.recover time).1 then
        (failover.registry.queues.get? id).map (·.clearErrors .active)
      else failover.registry.queues.get? id := by
  have listed : (failover.outages.filter fun _ outage => failover.isOver time outage).contains id
      = true ↔ id ∈ (failover.recover time).1 := IdMap.contains_iff
  have changed : (failover.recover time).2.registry.queues.get? id = _ := IdMap.get?_map _ _ _
  rw [changed]
  simp only [listed]
  split
  · rfl
  · exact Option.map_id'

/-- Recovery changes queues and outages. -/
theorem recover_snd (failover : Failover) (time : Nat) :
    (failover.recover time).2 = { failover with
      registry := { failover.registry with
        queues := (failover.recover time).2.registry.queues }
      outages := (failover.recover time).2.outages } := rfl

/-! ## The health pass -/

/-- The status to which a switch leads, for what a queue shows. -/
def switched (expected new : QueueStatus) (view : QueueView) : Option QueueStatus :=
  if view.status = expected then some new else none

theorem switchStatus_snd (failover : Failover) (id : QueueId) (expected new : QueueStatus) :
    (failover.switchStatus id expected new).2 =
      { failover with
        registry := (failover.registry.updateStatus id (switched expected new)).2 } := by
  have chosen : switched expected new =
      fun view => if view.status = expected then some new else none := rfl
  unfold switchStatus
  rw [← chosen]
  rcases failover.registry.updateStatus_cases id (switched expected new) with
    ⟨error, result⟩ | result | ⟨status, after, result⟩ <;> rw [result]

/-- What looking at one queue does, by the verdict on the counters that the queue showed. -/
theorem checkQueue_snd (settings : HealthSettings) (now : Nat) (state : CheckReport × Failover)
    (view : QueueView) :
    (checkQueue settings now state view).2 =
      match settings.evaluate view.counters.rxErrors view.counters.txErrors with
      | .breached => (state.2.handleFailure view.queue now).2
      | .degraded => (state.2.switchStatus view.queue .active .degraded).2
      | .healthy => (state.2.switchStatus view.queue .degraded .active).2 := by
  unfold checkQueue
  cases settings.evaluate view.counters.rxErrors view.counters.txErrors with
  | breached =>
      simp only []
      cases result : state.2.handleFailure view.queue now with
      | mk outcome failover => cases outcome <;> rfl
  | degraded =>
      simp only []
      cases result : state.2.switchStatus view.queue .active .degraded with
      | mk changed failover => cases changed <;> rfl
  | healthy =>
      simp only []
      cases result : state.2.switchStatus view.queue .degraded .active with
      | mk changed failover => cases changed <;> rfl

/-- What the look at each queue keeps, and recovery keeps, is kept by the pass. -/
theorem checkHealth_induct {holds : Failover → Prop} {settings : HealthSettings}
    {now recoveryTime : Nat} (start : holds failover)
    (looked : ∀ state view, holds state.2 → holds (checkQueue settings now state view).2)
    (recovered : ∀ later, holds later → holds (later.recover recoveryTime).2) :
    holds (failover.checkHealth settings now recoveryTime).2 := by
  have pass : ∀ (views : List QueueView) (state : CheckReport × Failover), holds state.2 →
      holds (views.foldl (checkQueue settings now) state).2 := by
    intro views
    induction views with
    | nil => exact fun _ kept => kept
    | cons view rest ih => exact fun state kept => ih _ (looked state view kept)
  unfold checkHealth
  split
  · exact start
  · exact recovered _ (pass failover.registry.views ({}, failover) start)

end Failover

end FlowSteer
