import FlowSteer.Proofs.Failover.Breaches

/-!
# Recovery, queue by queue

What recovery makes of one outage and of one queue (`get?_outages_recover`, `get?_queues_recover`)
is enough to compare recoveries, and to follow the outages through a run.

1. `mem_recover_recover`, `recover_recover`: a recovery after another one takes up what the first
   has left, and both come to the recovery at the later of the two times.
2. `System.tracked_run`: every outage is the outage of a registered queue, so that each queue that
   recovery returns is there to be reset.
-/

namespace FlowSteer

namespace Failover

variable {failover : Failover} {id : QueueId} {time : Nat} {outage : Outage} {queue : Queue}

/-- An outage that has just had a failure is not over. -/
theorem isOver_of_recent (recent : time ≤ outage.lastFailure) :
    failover.isOver time outage = false := by
  rw [← Bool.not_eq_true, isOver_iff, Nat.sub_eq_zero_of_le recent]
  exact Nat.not_lt_zero _

/-! ## Two recoveries -/

/-- What is over at the later of two times is over at one of them. -/
theorem isOver_max (failover : Failover) (first second : Nat) (outage : Outage) :
    failover.isOver (max first second) outage =
      (failover.isOver first outage || failover.isOver second outage) := by
  rw [Bool.eq_iff_iff, Bool.or_eq_true, isOver_iff, isOver_iff, isOver_iff]
  omega

variable {first second : Nat}

/-- A second recovery takes up what has become over since the first. -/
theorem mem_recover_recover :
    id ∈ ((failover.recover first).2.recover second).1 ↔
      id ∈ (failover.recover second).1 ∧ id ∉ (failover.recover first).1 := by
  have outages := get?_outages_recover failover first id
  by_cases recovered : id ∈ (failover.recover first).1
  · rw [if_pos recovered] at outages
    rw [mem_recover_iff, outages]
    exact iff_of_false (fun ⟨_, found, _⟩ => nomatch found) fun both => both.2 recovered
  · rw [if_neg recovered] at outages
    rw [mem_recover_iff, mem_recover_iff, outages]
    exact (and_iff_left recovered).symm

theorem mem_recover_max :
    id ∈ (failover.recover (max first second)).1 ↔
      id ∈ (failover.recover first).1 ∨ id ∈ (failover.recover second).1 := by
  simp only [mem_recover_iff, isOver_max, Bool.or_eq_true, and_or_left, exists_or]

/-- Two recoveries come to the one at the later time. -/
theorem recover_recover (failover : Failover) (first second : Nat) :
    ((failover.recover first).2.recover second).2 = (failover.recover (max first second)).2 := by
  have outages : ((failover.recover first).2.recover second).2.outages =
      (failover.recover (max first second)).2.outages := by
    apply IdMap.ext
    intro id
    rw [get?_outages_recover, get?_outages_recover, get?_outages_recover]
    simp only [mem_recover_recover, mem_recover_max]
    by_cases recovered : id ∈ (failover.recover first).1
    · simp only [recovered, if_true, ite_self, true_or]
    · simp only [recovered, not_false_eq_true, and_true, if_false, false_or]
  have queues : ((failover.recover first).2.recover second).2.registry.queues =
      (failover.recover (max first second)).2.registry.queues := by
    apply IdMap.ext
    intro id
    rw [get?_queues_recover, get?_queues_recover, get?_queues_recover]
    simp only [mem_recover_recover, mem_recover_max]
    by_cases recovered : id ∈ (failover.recover first).1
    · simp only [recovered, not_true_eq_false, and_false, if_false, if_true, true_or]
    · simp only [recovered, not_false_eq_true, and_true, if_false, false_or]
  rw [recover_snd _ second, recover_snd failover (max first second), outages, queues]
  rfl

/-- A recovery that finds nothing changes nothing. -/
theorem recover_of_none (none : ∀ id, id ∉ (failover.recover time).1) :
    failover.recover time = ([], failover) := by
  have ids : (failover.recover time).1 = [] := List.eq_nil_iff_forall_not_mem.2 none
  have outages : (failover.recover time).2.outages = failover.outages := by
    apply IdMap.ext
    intro id
    rw [get?_outages_recover, if_neg (none id)]
  have queues : (failover.recover time).2.registry.queues = failover.registry.queues := by
    apply IdMap.ext
    intro id
    rw [get?_queues_recover, if_neg (none id)]
  refine Prod.ext ids ?_
  rw [recover_snd, outages, queues]

/-! ## Outages of registered queues -/

/-- Every outage is the outage of a registered queue. -/
def Tracked (failover : Failover) : Prop :=
  ∀ id outage, failover.outages.get? id = some outage →
    ∃ queue, failover.registry.queues.get? id = some queue

end Failover

/-- No operation on the registry unregisters a queue. -/
theorem RegistryOp.present_apply {registry : Registry} {id : QueueId} (now : Nat) (op : RegistryOp)
    (present : ∃ queue, registry.queues.get? id = some queue) :
    ∃ queue, (op.apply now registry).queues.get? id = some queue := by
  have stays : ∀ {after : Registry}, Registry.Keeps (fun _ => ()) registry after →
      ∃ queue, after.queues.get? id = some queue := by
    intro after kept
    obtain ⟨queue, found⟩ := present
    obtain ⟨left, stillThere, _⟩ := kept.of_before found
    exact ⟨left, stillThere⟩
  have flows : Queue.BlindToFlows fun _ => () := fun _ _ => rfl
  cases op with
  | register other node =>
      obtain ⟨queue, found⟩ := present
      rcases registry.register_cases other node with ⟨_, result⟩ | ⟨absent, result⟩
      · refine ⟨queue, ?_⟩
        show (registry.register other node).2.queues.get? id = _
        rw [result, found]
      · refine ⟨queue, ?_⟩
        have different : id ≠ other := by
          rintro rfl
          rw [absent] at found
          cases found
        show (registry.register other node).2.queues.get? id = _
        rw [result, Registry.get?_putQueue, if_neg different, found]
  | forgetIdle time timeout => exact stays (Registry.keeps_forgetIdle flows time timeout)
  | forgetAll => exact stays (Registry.keeps_forgetAll flows)
  | bindAll planner => exact stays (Registry.keeps_bind (fun _ _ => rfl) _)
  | rebalance planner => exact stays (Registry.keeps_bind (fun _ _ => rfl) _)
  | _ =>
      first
      | exact stays (Registry.keeps_byLink (fun _ _ _ => rfl) (fun _ _ => rfl) _ rfl)
      | exact stays (Registry.keeps_byFailover (fun _ _ _ => rfl) (fun _ _ _ => rfl) _ rfl)

/-- So no sequence of them does. -/
theorem Registry.Leads.stays {kind : RegistryOp → Bool} {now : Nat} {before after : Registry}
    {id : QueueId} (leads : Leads kind now before after)
    (present : ∃ queue, before.queues.get? id = some queue) :
    ∃ queue, after.queues.get? id = some queue := by
  have kept : ∀ (later : Registry) op, kind op = true →
      (∃ queue, later.queues.get? id = some queue) →
      ∃ queue, (op.apply now later).queues.get? id = some queue :=
    fun _ op _ stillThere => op.present_apply now stillThere
  exact leads.induct kept present

namespace Failover

namespace Tracked

variable {failover after : Failover} {kind : RegistryOp → Bool} {now : Nat} {id : QueueId}

/-- Outages that have been open, and outages of queues that are there. -/
theorem of_outages (tracked : failover.Tracked)
    (leads : Registry.Leads kind now failover.registry after.registry)
    (outages : ∀ id, after.outages.get? id = failover.outages.get? id ∨
      after.outages.get? id = none ∨ ∃ queue, failover.registry.queues.get? id = some queue) :
    after.Tracked := by
  intro id outage found
  rcases outages id with same | closed | present
  · rw [same] at found
    exact leads.stays (tracked id outage found)
  · rw [closed] at found
    cases found
  · exact leads.stays present

theorem of_same (tracked : failover.Tracked)
    (leads : Registry.Leads kind now failover.registry after.registry)
    (same : after.outages = failover.outages) : after.Tracked :=
  tracked.of_outages leads fun _ => .inl (same ▸ rfl)

theorem of_insert (tracked : failover.Tracked)
    (leads : Registry.Leads kind now failover.registry after.registry) {outage : Outage}
    (present : ∃ queue, failover.registry.queues.get? id = some queue)
    (opened : after.outages = failover.outages.insert id outage) : after.Tracked := by
  refine tracked.of_outages leads fun other => ?_
  rw [opened, IdMap.get?_insert]
  split
  · rename_i same
    exact .inr (.inr (same ▸ present))
  · exact .inl rfl

theorem handleFailure (tracked : failover.Tracked) (id : QueueId) (now : Nat) :
    (failover.handleFailure id now).2.Tracked := by
  cases found : failover.registry.queues.get? id with
  | none =>
      rw [handleFailure_of_absent found]
      exact tracked
  | some queue =>
      have leads : Registry.Leads _ now _ _ := leads_handleFailure failover id now
      exact tracked.of_insert leads ⟨queue, found⟩ (outages_handleFailure found now)

theorem remapByHand (tracked : failover.Tracked) (source : QueueId) (target? : Option QueueId)
    (now : Nat) : (failover.remapByHand source target? now).2.Tracked := by
  have leads : Registry.Leads _ now _ _ := leads_remapByHand failover source target? now
  rcases failover.remapByHand_cases source target? now with
    ⟨_, _, result⟩ | ⟨checked, _, result⟩ | ⟨checked, _, _, _, _, result⟩
  · rw [result]
    exact tracked
  all_goals
    have opened : (failover.remapByHand source target? now).2.outages =
        failover.outages.insert source (failover.afterManual source now) := by
      rw [result]
      rfl
    exact tracked.of_insert leads (source_of_checkRemap checked) opened

theorem recover (tracked : failover.Tracked) (time : Nat) :
    (failover.recover time).2.Tracked := by
  have leads : Registry.Leads _ time _ _ := leads_recover failover time
  refine tracked.of_outages leads fun id => ?_
  rw [get?_outages_recover]
  split
  · exact .inr (.inl rfl)
  · exact .inl rfl

theorem placeFlow (tracked : failover.Tracked) (flow : FlowId) (target : QueueId) :
    (failover.placeFlow flow target).2.Tracked := by
  have leads : Registry.Leads _ 0 _ _ := leads_placeFlow failover flow target
  refine tracked.of_same leads ?_
  rcases failover.placeFlow_cases flow target with ⟨_, result⟩ | result | ⟨_, _, result⟩ <;>
    rw [result]

theorem placed {before : Failover} (tracked : before.Tracked)
    (placed : after = before ∨ ∃ flow target, after = (before.placeFlow flow target).2) :
    after.Tracked := by
  rcases placed with rfl | ⟨flow, target, rfl⟩
  · exact tracked
  · exact tracked.placeFlow flow target

theorem checkQueue {state : CheckReport × Failover} (tracked : state.2.Tracked)
    (settings : HealthSettings) (now : Nat) (view : QueueView) :
    (Failover.checkQueue settings now state view).2.Tracked := by
  have switched : ∀ expected new, (state.2.switchStatus view.queue expected new).2.Tracked := by
    intro expected new
    have leads : Registry.Leads _ now _ _ := leads_switchStatus state.2 view.queue expected new
    refine tracked.of_same leads ?_
    rw [switchStatus_snd]
  rw [checkQueue_snd]
  split
  · exact tracked.handleFailure view.queue now
  · exact switched .active .degraded
  · exact switched .degraded .active

theorem failoverOp (tracked : failover.Tracked) (now : Nat) (op : FailoverOp) :
    (op.apply now failover).Tracked := by
  cases op with
  | setSettings settings => exact tracked
  | handleFailure id => exact tracked.handleFailure id now
  | remapByHand source target? => exact tracked.remapByHand source target? now
  | recover time => exact tracked.recover time
  | placeFlow flow target => exact tracked.placeFlow flow target
  | checkHealth settings time =>
      exact checkHealth_induct tracked (fun _ view kept => kept.checkQueue settings now view)
        fun _ kept => kept.recover time

end Tracked

end Failover

namespace System

theorem tracked_step {system : System} (tracked : system.failover.Tracked)
    (operation : Operation) : (system.step operation).failover.Tracked := by
  cases operation with
  | registry op => exact tracked.of_same (system.leads_step (.registry op)) rfl
  | failover op => exact tracked.failoverOp system.clock.now op
  | link op => exact tracked.of_same (system.leads_step (.link op)) rfl
  | applyRate request => exact tracked.placed (system.limits.apply_cases system.failover request)
  | applyLine line => exact tracked.placed (system.limits.applyLine_cases system.failover line)
  | _ => exact tracked

/-- Every outage is the outage of a registered queue after every run. -/
theorem tracked_run (blueprint : Blueprint) (operations : List Operation) :
    ((fresh blueprint).run operations).failover.Tracked := by
  have kept : ∀ (system : System) operation, True → system.failover.Tracked →
      (system.step operation).failover.Tracked :=
    fun _ operation _ tracked => tracked_step tracked operation
  exact run_induct kept (fun _ _ => trivial) fun _ _ found => nomatch found

end System

end FlowSteer
