import FlowSteer.Proofs.Failover.Degraded

/-!
# Breaches and the pass that finds them

A queue breaches when it has more errors in one direction than the failure threshold. A health pass
goes by what the queues showed when it began, while its own failovers change queues that it has yet
to look at; what matters for a breach is not among the changes (`Failover.Current`).

1. `count_checkQueue`, `outages_checkQueue`, `calm_checkQueue`: what one look reports, which outage
   it changes, and what errors it leaves to its queue.
2. `Judged.looks`: so each breach is reported once, charged to its own queue, and over after the
   looks.
-/

namespace FlowSteer

/-- More errors in one direction than a threshold. -/
def Counters.breaches (counters : Counters) (threshold : Nat) : Bool :=
  threshold < counters.worstErrors

theorem HealthSettings.evaluate_eq_breached_iff {settings : HealthSettings} {counters : Counters} :
    settings.evaluate counters.rxErrors counters.txErrors = .breached ↔
      counters.breaches settings.failureThreshold.toNat = true := by
  unfold evaluate Counters.breaches Counters.worstErrors
  simp only [decide_eq_true_eq]
  split
  · rename_i above
    exact ⟨fun _ => above, fun _ => rfl⟩
  · rename_i notAbove
    refine ⟨fun verdict => ?_, fun above => absurd above notAbove⟩
    split at verdict <;> cases verdict

namespace Failover

variable {failover : Failover} {id : QueueId} {queue : Queue} {now threshold : Nat}
  {settings : HealthSettings}

/-! ## One failure -/

/-- A failure of a queue is on record, whatever becomes of its flows. -/
theorem outages_handleFailure (found : failover.registry.queues.get? id = some queue) (now : Nat) :
    (failover.handleFailure id now).2.outages =
      failover.outages.insert id (failover.afterFailure id now) := by
  rcases failover.handleFailure_cases id now with
    ⟨absent, _⟩ | ⟨_, _, ⟨_, result⟩ | ⟨_, _, result⟩ | ⟨_, _, _, result⟩ |
      ⟨_, _, target, moved, _, _, result⟩⟩
  · rw [absent] at found
    cases found
  all_goals
    rw [result]
    rfl

theorem calm_clearErrors {registry : Registry}
    (found : registry.queues.get? id = some queue) (status : QueueStatus) :
    (registry.clearErrors id status).2.strain id = some (status, 0) := by
  rw [Registry.clearErrors_snd]
  unfold Registry.strain
  rw [Registry.get?_adjust, if_pos rfl, found]
  rfl

/-- A failure of a queue takes its errors away, whatever becomes of its flows. -/
theorem calm_handleFailure (found : failover.registry.queues.get? id = some queue) (now : Nat) :
    ∃ status, (failover.handleFailure id now).2.registry.strain id = some (status, 0) := by
  rcases failover.handleFailure_cases id now with
    ⟨absent, _⟩ | ⟨_, _, ⟨_, result⟩ | ⟨_, _, result⟩ | ⟨_, _, _, result⟩ |
      ⟨_, _, target, moved, _, _, result⟩⟩
  · rw [absent] at found
    cases found
  · rw [result]
    exact ⟨_, calm_clearErrors found .recovering⟩
  · rw [result]
    exact ⟨_, calm_clearErrors found .failed⟩
  · rw [result]
    exact ⟨_, calm_clearErrors found .failed⟩
  · -- After its flows have moved the queue is still there, and its errors are cleared again.
    obtain ⟨_, _, noted⟩ := (Notes.noteFailure ⟨queue, found⟩ now .failed).changed
    have present : Registry.Keeps (fun _ => ()) (failover.noteFailure id now .failed).registry
        ((failover.noteFailure id now .failed).registry.moveAll id target).2 :=
      Registry.keeps_moveAll (fun _ _ => rfl) id target
    obtain ⟨_, left, _⟩ := present.of_before noted
    rw [result]
    exact ⟨_, calm_clearErrors left .recovering⟩

/-! ## One look -/

variable {state : CheckReport × Failover} {view : QueueView}

/-- A look that finds a breach reports it, as a failure or as an error, and no other look does. -/
theorem count_checkQueue (settings : HealthSettings) (now : Nat) (state : CheckReport × Failover)
    (view : QueueView) :
    (checkQueue settings now state view).1.failures.length +
        (checkQueue settings now state view).1.errors =
      state.1.failures.length + state.1.errors +
        if view.counters.breaches settings.failureThreshold.toNat then 1 else 0 := by
  rw [checkQueue_eq]
  cases verdict : settings.evaluate view.counters.rxErrors view.counters.txErrors with
  | breached =>
      rw [if_pos (HealthSettings.evaluate_eq_breached_iff.1 verdict)]
      show (CheckReport.handled _ (state.2.handleFailure view.queue now).1).failures.length +
        (CheckReport.handled _ (state.2.handleFailure view.queue now).1).errors = _
      cases (state.2.handleFailure view.queue now).1 with
      | error error => rfl
      | ok outcome =>
          show (state.1.failures ++ [outcome]).length + state.1.errors = _
          rw [List.length_append, List.length_singleton, Nat.add_right_comm]
  | degraded =>
      rw [if_neg (mt HealthSettings.evaluate_eq_breached_iff.2 (by rw [verdict]; decide))]
      simp only []
      split <;> rfl
  | healthy =>
      rw [if_neg (mt HealthSettings.evaluate_eq_breached_iff.2 (by rw [verdict]; decide))]
      simp only []
      split <;> rfl

theorem queue_of_current (current : failover.Current view) :
    ∃ queue, failover.registry.queues.get? view.queue = some queue := by
  obtain ⟨strain, shown, _⟩ := Option.map_eq_some_iff.1 current
  obtain ⟨queue, found, _⟩ := Option.map_eq_some_iff.1 shown
  exact ⟨queue, found⟩

/-- A look that finds a breach puts it on record for its queue; no other outage changes. -/
theorem outages_checkQueue (settings : HealthSettings) (current : state.2.Current view) (now : Nat)
    (id : QueueId) :
    (checkQueue settings now state view).2.outages.get? id =
      if id = view.queue ∧ view.counters.breaches settings.failureThreshold.toNat = true then
        some (state.2.afterFailure id now)
      else state.2.outages.get? id := by
  rw [checkQueue_snd]
  cases verdict : settings.evaluate view.counters.rxErrors view.counters.txErrors with
  | breached =>
      obtain ⟨queue, found⟩ := queue_of_current current
      have breached := HealthSettings.evaluate_eq_breached_iff.1 verdict
      simp only [outages_handleFailure found, IdMap.get?_insert, breached, and_true]
      split
      · rename_i same
        rw [same]
      · rfl
  | degraded =>
      have unbreached := mt HealthSettings.evaluate_eq_breached_iff.2 (by rw [verdict]; decide)
      rw [if_neg fun both => unbreached both.2]
      simp only [switchStatus_snd]
  | healthy =>
      have unbreached := mt HealthSettings.evaluate_eq_breached_iff.2 (by rw [verdict]; decide)
      rw [if_neg fun both => unbreached both.2]
      simp only [switchStatus_snd]

/-- After the look its queue has no errors above the threshold. -/
theorem calm_checkQueue (current : state.2.Current view) (now : Nat) :
    ∃ status errors,
      (checkQueue settings now state view).2.registry.strain view.queue = some (status, errors) ∧
        errors ≤ settings.failureThreshold.toNat := by
  rw [checkQueue_snd]
  have unbreached : ∀ {switched : Failover},
      (switched.registry.strain view.queue).map Prod.snd =
        (state.2.registry.strain view.queue).map Prod.snd →
      ¬view.counters.breaches settings.failureThreshold.toNat = true →
      ∃ status errors, switched.registry.strain view.queue = some (status, errors) ∧
        errors ≤ settings.failureThreshold.toNat := by
    intro switched same notAbove
    obtain ⟨⟨status, errors⟩, shown, rfl⟩ := Option.map_eq_some_iff.1 (same.trans current)
    refine ⟨status, _, shown, Nat.le_of_not_lt fun above => notAbove ?_⟩
    exact decide_eq_true above
  cases verdict : settings.evaluate view.counters.rxErrors view.counters.txErrors with
  | breached =>
      obtain ⟨queue, found⟩ := queue_of_current current
      obtain ⟨status, calm⟩ := calm_handleFailure found now
      exact ⟨status, 0, calm, Nat.zero_le _⟩
  | degraded =>
      exact unbreached (errors_switchStatus _ _ _ _ _)
        (mt HealthSettings.evaluate_eq_breached_iff.2 (by rw [verdict]; decide))
  | healthy =>
      exact unbreached (errors_switchStatus _ _ _ _ _)
        (mt HealthSettings.evaluate_eq_breached_iff.2 (by rw [verdict]; decide))

/-! ## All looks -/

/-- Of the queues that showed some views, each one that showed a breach was reported and charged
once, and none of them has errors above the threshold; other queues are as they were. -/
structure Judged (threshold now : Nat) (views : List QueueView)
    (before after : CheckReport × Failover) : Prop where
  counted : after.1.failures.length + after.1.errors =
    before.1.failures.length + before.1.errors +
      views.countP fun view => view.counters.breaches threshold
  charged : ∀ view ∈ views, view.counters.breaches threshold = true →
    after.2.outages.get? view.queue = some (before.2.afterFailure view.queue now)
  spared : ∀ id, (∀ view ∈ views, view.queue = id → ¬view.counters.breaches threshold = true) →
    after.2.outages.get? id = before.2.outages.get? id
  calmed : ∀ view ∈ views, ∃ status errors,
    after.2.registry.strain view.queue = some (status, errors) ∧ errors ≤ threshold
  kept : ∀ id, (∀ view ∈ views, view.queue ≠ id) →
    after.2.registry.strain id = before.2.registry.strain id

theorem afterFailure_congr {before after : Failover}
    (same : after.outages.get? id = before.outages.get? id) (now : Nat) :
    after.afterFailure id now = before.afterFailure id now := by
  unfold afterFailure
  rw [same]

/-- The looks at different queues that all have the errors which they showed. -/
theorem Judged.looks {views : List QueueView} (distinct : (views.map (·.queue)).Nodup)
    (now : Nat) {state : CheckReport × Failover}
    (current : ∀ view ∈ views, state.2.Current view) :
    Judged settings.failureThreshold.toNat now views state
      (views.foldl (checkQueue settings now) state) := by
  induction views generalizing state with
  | nil =>
      exact ⟨rfl, fun view member => absurd member List.not_mem_nil, fun _ _ => rfl,
        fun view member => absurd member List.not_mem_nil, fun _ _ => rfl⟩
  | cons view rest ih =>
      obtain ⟨notLater, distinctRest⟩ := List.nodup_cons.1 distinct
      have others : ∀ other ∈ rest, other.queue ≠ view.queue := fun other member same =>
        notLater (List.mem_map.2 ⟨other, member, same⟩)
      have here : state.2.Current view := current view List.mem_cons_self
      have stillCurrent : ∀ other ∈ rest, (checkQueue settings now state view).2.Current other :=
        fun other member =>
          (current other (List.mem_cons_of_mem _ member)).checkQueue (others other member)
      have later := ih distinctRest stillCurrent
      have changed := outages_checkQueue settings here now
      rw [List.foldl_cons]
      constructor
      case counted =>
        rw [later.counted, count_checkQueue, List.countP_cons, Nat.add_assoc,
          Nat.add_comm (ite _ _ _)]
      case charged =>
        intro other member breached
        rcases List.mem_cons.1 member with rfl | inRest
        · rw [later.spared other.queue fun view member same => absurd same (others view member),
            changed, if_pos ⟨rfl, breached⟩]
        · rw [later.charged other inRest breached]
          refine congrArg some (afterFailure_congr ?_ now)
          rw [changed, if_neg fun both => others other inRest both.1]
      case spared =>
        intro id unbreached
        rw [later.spared id fun view member => unbreached view (List.mem_cons_of_mem _ member),
          changed, if_neg fun both => unbreached view List.mem_cons_self both.1.symm both.2]
      case calmed =>
        intro other member
        rcases List.mem_cons.1 member with rfl | inRest
        · rw [later.kept other.queue others]
          exact calm_checkQueue here now
        · exact later.calmed other inRest
      case kept =>
        intro id unlisted
        rw [later.kept id fun view member => unlisted view (List.mem_cons_of_mem _ member)]
        exact KeepsOthers.checkQueue settings now state view id
          (Ne.symm (unlisted view List.mem_cons_self))

end Failover

end FlowSteer
