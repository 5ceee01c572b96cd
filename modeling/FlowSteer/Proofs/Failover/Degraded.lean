import FlowSteer.Proofs.Failover.Strain
import FlowSteer.Proofs.Failover.Upkeep

/-!
# Degraded queues and their errors

The monitor degrades a queue when it has more errors in one direction than the lower threshold.
The errors are then never taken from it without another status (`Registry.DegradedAbove`):

1. `Registry.Wears`: outside failover a queue keeps its status, and errors are only added.
2. `Failover.Spares.look`: the look at a degraded queue finds it degraded still, or handles its
   failure. A pass goes by what the queues showed when it began; a queue whose turn has not come
   still has the errors that it showed (`Failover.Current`), since each look changes one queue.
3. `Failover.spares_checkHealth`: so a pass restores no queue, and the recovery at its end takes up
   none that is degraded.
-/

namespace FlowSteer

namespace Registry

/-- Every degraded queue has more errors in one direction than a threshold. -/
def DegradedAbove (registry : Registry) (threshold : Nat) : Prop :=
  ∀ id errors, registry.strain id = some (.degraded, errors) → threshold < errors

/-- Every queue is still there, with its status and no fewer errors, and a new queue is active. -/
structure Wears (before after : Registry) : Prop where
  kept : ∀ {id status errors}, before.strain id = some (status, errors) →
    ∃ more, after.strain id = some (status, more) ∧ errors ≤ more
  added : ∀ {id status errors}, before.strain id = none →
    after.strain id = some (status, errors) → status = .active

variable {registry before middle after : Registry} {id : QueueId} {status : QueueStatus}
  {threshold now : Nat}

/-- Each queue shows itself once. -/
theorem distinct_views (registry : Registry) : (registry.views.map (·.queue)).Nodup := by
  have ids : registry.views.map (·.queue) = registry.queues.ids := List.map_map
  rw [ids]
  exact registry.queues.ids_nodup

/-- What the queues show, each with its id. -/
theorem mem_views_iff {view : QueueView} :
    view ∈ registry.views ↔
      ∃ queue, registry.queues.get? view.queue = some queue ∧ queue.view view.queue = view := by
  constructor
  · intro member
    obtain ⟨⟨id, queue⟩, listed, rfl⟩ := List.mem_map.1 member
    exact ⟨queue, IdMap.get?_eq_some_iff.2 listed, rfl⟩
  · rintro ⟨queue, found, shown⟩
    exact List.mem_map.2 ⟨(view.queue, queue), IdMap.get?_eq_some_iff.1 found, shown⟩

theorem hasStatus_iff_strain :
    registry.HasStatus id status ↔ ∃ errors, registry.strain id = some (status, errors) := by
  unfold HasStatus strain
  constructor
  · rintro ⟨queue, found, rfl⟩
    exact ⟨_, Option.map_eq_some_iff.2 ⟨queue, found, rfl⟩⟩
  · rintro ⟨errors, shown⟩
    obtain ⟨queue, found, same⟩ := Option.map_eq_some_iff.1 shown
    exact ⟨queue, found, congrArg Prod.fst same⟩

namespace Wears

theorem of_keeps (same : Keeps Queue.strain before after) : Wears before after where
  kept := fun shown => ⟨_, (same _).trans shown, Nat.le_refl _⟩
  added := by
    intro id status errors none shown
    have absent := (same id).symm.trans shown
    rw [strain] at none
    rw [none] at absent
    cases absent

theorem refl (registry : Registry) : Wears registry registry := of_keeps (.refl _ registry)

theorem trans (first : Wears before middle) (second : Wears middle after) :
    Wears before after where
  kept := by
    intro id status errors shown
    obtain ⟨more, reached, less⟩ := first.kept shown
    obtain ⟨most, last, lessThen⟩ := second.kept reached
    exact ⟨most, last, Nat.le_trans less lessThen⟩
  added := by
    intro id status errors none shown
    cases reached : middle.strain id with
    | none => exact second.added reached shown
    | some strain =>
        obtain ⟨more, last, -⟩ := second.kept reached
        rw [shown] at last
        cases last
        exact first.added none reached

theorem degradedAbove (wears : Wears before after) (above : before.DegradedAbove threshold) :
    after.DegradedAbove threshold := by
  intro id errors shown
  cases was : before.strain id with
  | none => cases wears.added was shown
  | some strain =>
      obtain ⟨status, old⟩ := strain
      obtain ⟨more, last, less⟩ := wears.kept was
      rw [shown] at last
      cases last
      exact Nat.lt_of_lt_of_le (above id _ was) less

theorem hasStatus (wears : Wears before after) (has : before.HasStatus id status) :
    after.HasStatus id status := by
  obtain ⟨errors, shown⟩ := hasStatus_iff_strain.1 has
  obtain ⟨more, last, -⟩ := wears.kept shown
  exact hasStatus_iff_strain.2 ⟨more, last⟩

/-! ### Operations on the registry -/

theorem register (registry : Registry) (id : QueueId) (node : NodeId) :
    Wears registry (registry.register id node).2 := by
  rcases registry.register_cases id node with ⟨_, result⟩ | ⟨absent, result⟩
  · rw [result]
    exact .refl registry
  · rw [result]
    have others : ∀ other, other ≠ id → (registry.putQueue id (.fresh node registry.maxFlows)).strain
        other = registry.strain other := by
      intro other different
      unfold strain
      rw [get?_putQueue, if_neg different]
    constructor
    · intro other status errors shown
      have different : other ≠ id := by
        rintro rfl
        rw [strain, absent] at shown
        cases shown
      exact ⟨errors, (others other different).trans shown, Nat.le_refl _⟩
    · intro other status errors none shown
      by_cases same : other = id
      · rw [strain, get?_putQueue, if_pos same] at shown
        cases shown
        rfl
      · rw [others other same, none] at shown
        cases shown

theorem record (registry : Registry) (id : QueueId) (flow : FlowId) (bytes : Nat)
    (direction : Direction) (now : Nat) :
    Wears registry (registry.record id flow bytes direction now).2 := by
  have counted : ∀ queue : Queue, ∀ flow bytes,
      (queue.addPacket flow bytes direction now).strain = queue.strain := by
    intro queue flow bytes
    cases direction <;> rfl
  rcases record_cases registry id flow bytes direction now with
    ⟨_, result⟩ | ⟨queue, found, _, result⟩ | ⟨queue, found, _, _, _, _, result⟩
  · rw [result]
    exact .refl registry
  · rw [result]
    exact of_keeps (.putQueue found (counted queue flow bytes))
  · rw [result]
    have kept : Keeps Queue.strain registry (registry.putQueue id
        ((queue.takeIn flow now).addPacket flow bytes direction now)) :=
      .putQueue found (counted (queue.takeIn flow now) flow bytes)
    exact of_keeps kept

theorem countError (registry : Registry) (id : QueueId) (direction : Direction) :
    Wears registry (registry.countError id direction).2 := by
  rw [Registry.countError, updateQueue_snd]
  have more : ∀ counters : Counters,
      counters.worstErrors ≤ (counters.addError direction).worstErrors := by
    intro counters
    cases direction <;> simp only [Counters.worstErrors, Counters.addError] <;> omega
  constructor
  · intro other status errors shown
    by_cases same : other = id
    · obtain ⟨queue, found, strain⟩ := Option.map_eq_some_iff.1 shown
      cases strain
      refine ⟨(queue.counters.addError direction).worstErrors, ?_, more queue.counters⟩
      rw [strain, get?_adjust, if_pos same, found]
      rfl
    · exact ⟨errors, (strain_adjust same registry _).trans shown, Nat.le_refl _⟩
  · intro other status errors none shown
    rw [strain, get?_adjust, Option.map_eq_none_iff.1 none] at shown
    split at shown <;> cases shown

/-- Operations that leave statuses to failover take no errors from a queue. -/
theorem apply (registry : Registry) (now : Nat) (op : RegistryOp)
    (indirect : op.setsStatus = false) : Wears registry (op.apply now registry) := by
  have flows : Queue.BlindToFlows Queue.strain := fun _ _ => rfl
  cases op with
  | register id node => exact .register registry id node
  | record id flow bytes direction => exact .record registry id flow bytes direction now
  | recordLatency flow latency => exact .of_keeps (keeps_recordLatency flows flow latency)
  | countError id direction => exact .countError registry id direction
  | countDrop id direction =>
      show Wears registry (registry.countDrop id direction).2
      rw [Registry.countDrop, updateQueue_snd]
      exact .of_keeps (keeps_adjust (fun _ => by cases direction <;> rfl) id)
  | addWork id work =>
      show Wears registry (registry.addWork id work).2
      rw [Registry.addWork, updateQueue_snd]
      refine .of_keeps (keeps_adjust ?_ id)
      exact fun _ => rfl
  | finishWork id work =>
      show Wears registry (registry.finishWork id work).2
      rw [finishWork_snd]
      refine .of_keeps (keeps_adjust ?_ id)
      exact fun _ => rfl
  | setStatus id status => cases indirect
  | clearErrors id status => cases indirect
  | updateStatus id choose => cases indirect
  | moveFlow flow source target => exact .of_keeps (keeps_moveFlow flows flow source target)
  | moveAll source target => exact .of_keeps (keeps_moveAll flows source target)
  | forgetIdle time timeout => exact .of_keeps (keeps_forgetIdle flows time timeout)
  | forgetAll => exact .of_keeps (keeps_forgetAll flows)
  | bindAll planner => exact .of_keeps (keeps_bind (fun _ _ => rfl) _)
  | rebalance planner => exact .of_keeps (keeps_bind (fun _ _ => rfl) _)

end Wears

/-- Nor does the packet path. -/
theorem Leads.wears (leads : Leads RegistryOp.byLink now before after) : Wears before after := by
  have kept : ∀ (later : Registry) (op : RegistryOp), op.byLink = true → Wears before later →
      Wears before (op.apply now later) := by
    intro later op allowed reached
    refine reached.trans (.apply later now op ?_)
    cases op <;> first | rfl | cases allowed
  exact leads.induct kept (.refl before)

end Registry

namespace HealthSettings

variable {settings : HealthSettings} {rxErrors txErrors : Nat}

theorem above_of_degraded (verdict : settings.evaluate rxErrors txErrors = .degraded) :
    settings.degradedThreshold.toNat < max rxErrors txErrors := by
  unfold evaluate at verdict
  simp only at verdict
  split at verdict
  · cases verdict
  · split at verdict
    · assumption
    · cases verdict

theorem not_above_of_healthy (verdict : settings.evaluate rxErrors txErrors = .healthy) :
    ¬settings.degradedThreshold.toNat < max rxErrors txErrors := by
  unfold evaluate at verdict
  simp only at verdict
  split at verdict
  · cases verdict
  · split at verdict
    · cases verdict
    · assumption

end HealthSettings

namespace Failover

open Registry (DegradedAbove Wears)

variable {failover before after : Failover} {id : QueueId} {threshold now : Nat}
  {settings : HealthSettings}

/-- A queue is taken out of service, or left as it was, and the others keep their strain. -/
theorem KeepsOthers.degradedAbove (others : KeepsOthers id before after)
    (above : before.registry.DegradedAbove threshold) (unwell : after.registry.Ailing id) :
    after.registry.DegradedAbove threshold := by
  intro other errors shown
  by_cases same : other = id
  · subst same
    have degraded := Registry.hasStatus_iff_strain.2 ⟨errors, shown⟩
    rcases Registry.ailing_iff_hasStatus.1 unwell with failed | recovering
    · cases degraded.eq failed
    · cases degraded.eq recovering
  · exact above other errors ((others other same).symm.trans shown)

theorem degradedAbove_handleFailure (above : failover.registry.DegradedAbove threshold)
    (id : QueueId) (now : Nat) :
    (failover.handleFailure id now).2.registry.DegradedAbove threshold := by
  cases found : failover.registry.queues.get? id with
  | none =>
      rw [handleFailure_of_absent found]
      exact above
  | some queue =>
      have ailing := (sidelined_handleFailure found now).ailing
      exact (KeepsOthers.handleFailure failover id now).degradedAbove above ailing

theorem degradedAbove_remapByHand (above : failover.registry.DegradedAbove threshold)
    (source : QueueId) (target? : Option QueueId) (now : Nat) :
    (failover.remapByHand source target? now).2.registry.DegradedAbove threshold := by
  cases checked : failover.checkRemap source target? with
  | error error =>
      unfold remapByHand
      rw [checked]
      exact above
  | ok _ =>
      have ailing := (sidelined_remapByHand checked now).ailing
      exact (KeepsOthers.remapByHand failover source target? now).degradedAbove above ailing

theorem wears_placeFlow (failover : Failover) (flow : FlowId) (target : QueueId) :
    Wears failover.registry (failover.placeFlow flow target).2.registry := by
  rcases failover.placeFlow_cases flow target with ⟨_, result⟩ | result | ⟨source, _, result⟩
  · rw [result]
    exact .refl failover.registry
  · rw [result]
    exact .refl failover.registry
  · rw [result]
    exact .of_keeps (Registry.keeps_moveFlow (fun _ _ => rfl) flow source target)

theorem wears_placed
    (placed : after = before ∨ ∃ flow target, after = (before.placeFlow flow target).2) :
    Wears before.registry after.registry := by
  rcases placed with rfl | ⟨flow, target, rfl⟩
  · exact .refl after.registry
  · exact wears_placeFlow before flow target

/-! ## The looks of a pass -/

/-- The queue has the errors that a view shows. -/
def Current (failover : Failover) (view : QueueView) : Prop :=
  (failover.registry.strain view.queue).map Prod.snd = some view.counters.worstErrors

theorem current_of_mem_views {view : QueueView} (member : view ∈ failover.registry.views) :
    failover.Current view := by
  obtain ⟨queue, found, shown⟩ := Registry.mem_views_iff.1 member
  unfold Current
  rw [Registry.strain_of_get? found, ← shown]
  rfl

/-- A degraded queue has the errors that it shows, so that the monitor does not find it healthy. -/
theorem above_of_current {view : QueueView} (current : failover.Current view)
    (above : failover.registry.DegradedAbove threshold)
    (degraded : failover.registry.HasStatus view.queue .degraded) :
    threshold < max view.counters.rxErrors view.counters.txErrors := by
  obtain ⟨errors, shown⟩ := Registry.hasStatus_iff_strain.1 degraded
  unfold Current at current
  rw [shown, Option.map_some, Option.some.injEq] at current
  have less := above view.queue errors shown
  change errors = max view.counters.rxErrors view.counters.txErrors at current
  rwa [current] at less

/-- No queue is restored, degraded queues have their errors, and a queue that was degraded still is
unless its failure was handled. -/
structure Spares (threshold : Nat) (handlings : List Handling)
    (before after : CheckReport × Failover) : Prop where
  restored : after.1.restored = before.1.restored
  above : after.2.registry.DegradedAbove threshold
  degraded : ∀ id, before.2.registry.HasStatus id .degraded →
    after.2.registry.HasStatus id .degraded ∨
      ∃ handling ∈ handlings, handling.queue = id ∧ handling.Present

theorem Spares.trans {first second : List Handling} {start middle last : CheckReport × Failover}
    (earlier : Spares threshold first start middle) (later : Spares threshold second middle last) :
    Spares threshold (first ++ second) start last where
  restored := later.restored.trans earlier.restored
  above := later.above
  degraded := by
    intro id degraded
    rcases earlier.degraded id degraded with still | ⟨handling, member, handled⟩
    · rcases later.degraded id still with kept | ⟨handling, member, handled⟩
      · exact .inl kept
      · exact .inr ⟨handling, List.mem_append_right first member, handled⟩
    · exact .inr ⟨handling, List.mem_append_left second member, handled⟩

/-- A switch of the status leaves the errors. -/
theorem errors_switchStatus (failover : Failover) (id : QueueId) (expected new : QueueStatus)
    (other : QueueId) :
    ((failover.switchStatus id expected new).2.registry.strain other).map Prod.snd =
      (failover.registry.strain other).map Prod.snd := by
  have kept : Registry.Keeps (·.counters.worstErrors) failover.registry
      (failover.switchStatus id expected new).2.registry := by
    rw [switchStatus_snd, Registry.updateStatus_snd]
    refine Registry.keeps_adjust ?_ id
    exact fun _ => rfl
  unfold Registry.strain
  rw [Option.map_map, Option.map_map]
  exact kept other

/-- A switch from active to degraded of a queue that has the errors. -/
theorem Spares.degrade {state : CheckReport × Failover} {view : QueueView}
    (above : state.2.registry.DegradedAbove threshold) (current : state.2.Current view)
    (found : threshold < max view.counters.rxErrors view.counters.txErrors) :
    let switched := (state.2.switchStatus view.queue .active .degraded).2
    switched.registry.DegradedAbove threshold ∧
      ∀ id, state.2.registry.HasStatus id .degraded → switched.registry.HasStatus id .degraded := by
  have others := KeepsOthers.switchStatus state.2 view.queue .active .degraded
  constructor
  · intro other errors shown
    by_cases same : other = view.queue
    · have showed : (state.2.registry.strain other).map Prod.snd = some errors := by
        rw [← errors_switchStatus, shown]
        rfl
      rw [same, current, Option.some.injEq] at showed
      rw [← showed]
      exact found
    · exact above other errors ((others other same).symm.trans shown)
  · intro other degraded
    by_cases same : other = view.queue
    · subst same
      rw [switchStatus_of_status_ne degraded (by decide)]
      exact degraded
    · exact degraded.of_strain (others other same)

/-- The look at one queue that has the errors which it showed. -/
theorem Spares.look {state : CheckReport × Failover} {view : QueueView}
    (above : state.2.registry.DegradedAbove settings.degradedThreshold.toNat)
    (current : state.2.Current view) :
    Spares settings.degradedThreshold.toNat (handlingAt settings now state.2 view) state
      (checkQueue settings now state view) := by
  rw [checkQueue_eq]
  unfold handlingAt
  cases verdict : settings.evaluate view.counters.rxErrors view.counters.txErrors with
  | breached =>
      constructor
      case restored =>
        show (CheckReport.handled _ (state.2.handleFailure view.queue now).1).restored = _
        cases (state.2.handleFailure view.queue now).1 <;> rfl
      case above => exact degradedAbove_handleFailure above view.queue now
      case degraded =>
        intro id degraded
        by_cases same : id = view.queue
        · subst same
          obtain ⟨queue, found, -⟩ := degraded
          exact .inr ⟨_, List.mem_singleton_self _, rfl, queue, found⟩
        · exact .inl (degraded.of_strain (KeepsOthers.handleFailure state.2 view.queue now id same))
  | degraded =>
      have switched := Spares.degrade above current (HealthSettings.above_of_degraded verdict)
      constructor
      case restored =>
        show (ite _ _ _ : CheckReport).restored = _
        split <;> rfl
      case above => exact switched.1
      case degraded => exact fun id degraded => .inl (switched.2 id degraded)
  | healthy =>
      -- A degraded queue would show more errors than this.
      have notDegraded : ¬state.2.registry.HasStatus view.queue .degraded := fun degraded =>
        HealthSettings.not_above_of_healthy verdict (above_of_current current above degraded)
      have unswitched : state.2.switchStatus view.queue .degraded .active = (false, state.2) := by
        cases shown : state.2.registry.strain view.queue with
        | none =>
            unfold Current at current
            rw [shown] at current
            cases current
        | some strain =>
            have has : state.2.registry.HasStatus view.queue strain.1 :=
              Registry.hasStatus_iff_strain.2 ⟨strain.2, shown⟩
            refine switchStatus_of_status_ne has ?_ .active
            rintro same
            exact notDegraded (same ▸ has)
      simp only [unswitched]
      exact ⟨rfl, above, fun id degraded => .inl degraded⟩

/-- A look at another queue leaves the errors that a view shows. -/
theorem Current.checkQueue {state : CheckReport × Failover} {view other : QueueView}
    (current : state.2.Current other) (different : other.queue ≠ view.queue) :
    (checkQueue settings now state view).2.Current other := by
  unfold Current
  rw [KeepsOthers.checkQueue settings now state view other.queue different]
  exact current

/-- The looks at different queues that all have the errors which they showed. -/
theorem Spares.looks {views : List QueueView} (distinct : (views.map (·.queue)).Nodup)
    {state : CheckReport × Failover}
    (above : state.2.registry.DegradedAbove settings.degradedThreshold.toNat)
    (current : ∀ view ∈ views, state.2.Current view) :
    Spares settings.degradedThreshold.toNat (handlingsOf settings now state views) state
      (views.foldl (checkQueue settings now) state) := by
  induction views generalizing state with
  | nil => exact ⟨rfl, above, fun _ degraded => .inl degraded⟩
  | cons view rest ih =>
      obtain ⟨notLater, distinctRest⟩ := List.nodup_cons.1 distinct
      have first : Spares _ (handlingAt settings now state.2 view) state
          (checkQueue settings now state view) :=
        .look above (current view List.mem_cons_self)
      refine first.trans (ih distinctRest first.above ?_)
      intro other member
      refine (current other (List.mem_cons_of_mem _ member)).checkQueue fun same => ?_
      exact notLater (List.mem_map.2 ⟨other, member, same⟩)

/-! ## The pass -/

theorem strain_recover (failover : Failover) (time : Nat) (id : QueueId) :
    (failover.recover time).2.registry.strain id =
      if id ∈ (failover.recover time).1 then (failover.registry.strain id).map fun _ => (.active, 0)
      else failover.registry.strain id := by
  unfold Registry.strain
  rw [get?_queues_recover]
  split
  · rw [Option.map_map, Option.map_map]
    rfl
  · rfl

theorem degradedAbove_recover (above : failover.registry.DegradedAbove threshold) (time : Nat) :
    (failover.recover time).2.registry.DegradedAbove threshold := by
  intro id errors shown
  rw [strain_recover] at shown
  split at shown
  · obtain ⟨strain, -, same⟩ := Option.map_eq_some_iff.1 shown
    cases same
  · exact above id errors shown

/-- Recovery takes up no queue that is degraded: such a queue has no outage. -/
theorem OnRecord.degraded_recover (onRecord : OnRecord failover)
    (degraded : failover.registry.HasStatus id .degraded) (time : Nat) :
    (failover.recover time).2.registry.HasStatus id .degraded := by
  refine degraded.of_strain ?_
  rw [strain_recover, if_neg]
  intro recovered
  obtain ⟨outage, found, -⟩ := mem_recover_iff.1 recovered
  have ailing : failover.registry.Ailing id := (onRecord id).1 (found ▸ rfl)
  rcases Registry.ailing_iff_hasStatus.1 ailing with failed | recovering
  · cases degraded.eq failed
  · cases degraded.eq recovering

theorem onRecord_looks (onRecord : OnRecord failover) (settings : HealthSettings) :
    OnRecord (failover.registry.views.foldl (checkQueue settings now) ({}, failover)).2 := by
  have looked : ∀ (views : List QueueView) (state : CheckReport × Failover),
      OnRecord state.2 → OnRecord (views.foldl (checkQueue settings now) state).2 := by
    intro views
    induction views with
    | nil => exact fun _ kept => kept
    | cons view rest ih => exact fun state kept => ih _ (kept.checkQueue settings state view)
  exact looked failover.registry.views ({}, failover) onRecord

/-- A health pass restores no queue, leaves degraded queues their errors, and takes that status only
from queues whose failure it handles. -/
theorem spares_checkHealth (onRecord : OnRecord failover)
    (above : failover.registry.DegradedAbove settings.degradedThreshold.toNat) (now time : Nat) :
    Spares settings.degradedThreshold.toNat
      ((FailoverOp.checkHealth settings time).handlings now failover) ({}, failover)
      (failover.checkHealth settings now time) := by
  unfold FailoverOp.handlings
  cases enabled : failover.settings.enabled with
  | false =>
      unfold checkHealth
      rw [enabled]
      exact ⟨rfl, above, fun _ degraded => .inl degraded⟩
  | true =>
      rw [checkHealth_of_enabled enabled]
      have distinct := failover.registry.distinct_views
      have looks : Spares _ (handlingsOf settings now ({}, failover) failover.registry.views)
          ({}, failover) _ := Spares.looks distinct above fun _ => current_of_mem_views
      constructor
      case restored => exact looks.restored
      case above => exact degradedAbove_recover looks.above time
      case degraded =>
        intro id degraded
        refine (looks.degraded id degraded).imp_left fun still => ?_
        exact (onRecord_looks onRecord settings).degraded_recover still time

end Failover

end FlowSteer
