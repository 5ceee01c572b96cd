import FlowSteer.Proofs.Failover.Recovery

/-!
# Recovery is exact, and absorbs itself

Recovery at a time closes the outages that have been without failures for longer than the recovery
window, and puts exactly their queues back into service (`Failover.Sweeps`). Two recoveries with
nothing in between come to one at the later of both times, in whichever order the times are; what
the first has taken up is not taken up again (`Failover.Absorbs`).

`System.sweeps_run`: both hold after every run, for all times.
-/

namespace FlowSteer

namespace Failover

/-- What recovery at a time returns and changes. -/
structure Sweeps (before : Failover) (time : Nat) (recovery : List QueueId × Failover) : Prop where
  /-- The queues of the outages that are over. From a failure still to come no time has passed. -/
  returned : ∀ id, id ∈ recovery.1 ↔ ∃ outage, before.outages.get? id = some outage ∧
    before.settings.recoveryWindowMs.toNat < time - outage.lastFailure
  ascending : recovery.1.Pairwise (· < ·)
  closed : ∀ id, recovery.2.outages.get? id =
    if id ∈ recovery.1 then none else before.outages.get? id
  /-- Each queue that is returned is registered, and is now active and without errors. -/
  restored : ∀ id ∈ recovery.1, ∃ queue, before.registry.queues.get? id = some queue ∧
    recovery.2.registry.queues.get? id = some { queue with
      status := .active, counters := { queue.counters with rxErrors := 0, txErrors := 0 } }
  untouched : ∀ id, id ∉ recovery.1 →
    recovery.2.registry.queues.get? id = before.registry.queues.get? id
  rest : recovery.2 = { before with
    registry := { before.registry with queues := recovery.2.registry.queues }
    outages := recovery.2.outages }

/-- A recovery and a second one with nothing in between. -/
structure Absorbs (failover : Failover) (first second : Nat) : Prop where
  state : ((failover.recover first).2.recover second).2 =
    (failover.recover (max first second)).2
  disjoint : (failover.recover first).1.Disjoint ((failover.recover first).2.recover second).1
  together : ∀ id, id ∈ (failover.recover (max first second)).1 ↔
    id ∈ (failover.recover first).1 ∨ id ∈ ((failover.recover first).2.recover second).1
  /-- At the same or an earlier time the second one does nothing. -/
  idle : second ≤ first →
    (failover.recover first).2.recover second = ([], (failover.recover first).2)

theorem Tracked.sweeps {failover : Failover} (tracked : failover.Tracked) (time : Nat) :
    failover.Sweeps time (failover.recover time) where
  returned id := by simp only [mem_recover_iff, isOver_iff]
  ascending := IdMap.ids_ascending _
  closed := get?_outages_recover failover time
  restored := by
    intro id recovered
    obtain ⟨outage, standing, _⟩ := mem_recover_iff.1 recovered
    obtain ⟨queue, found⟩ := tracked id outage standing
    refine ⟨queue, found, ?_⟩
    rw [get?_queues_recover, if_pos recovered, found]
    rfl
  untouched := by
    intro id left
    rw [get?_queues_recover, if_neg left]
  rest := recover_snd failover time

theorem absorbs_recover (failover : Failover) (first second : Nat) :
    failover.Absorbs first second where
  state := recover_recover failover first second
  disjoint := fun _ recovered again => (mem_recover_recover.1 again).2 recovered
  together := by
    intro id
    rw [mem_recover_max, mem_recover_recover]
    by_cases recovered : id ∈ (failover.recover first).1
    · exact iff_of_true (.inl recovered) (.inl recovered)
    · simp only [recovered, false_or, not_false_eq_true, and_true]
  idle := by
    intro earlier
    refine recover_of_none fun id again => ?_
    obtain ⟨finished, left⟩ := mem_recover_recover.1 again
    have atFirst : id ∈ (failover.recover (max first second)).1 := mem_recover_max.2 (.inr finished)
    rw [max_eq_left earlier] at atFirst
    exact left atFirst

end Failover

namespace System

/-- After every run recovery is exact at each time, and a second recovery is absorbed. -/
theorem sweeps_run (blueprint : Blueprint) (operations : List Operation) (first second : Nat) :
    ((fresh blueprint).run operations).failover.Sweeps first
        (((fresh blueprint).run operations).failover.recover first) ∧
      ((fresh blueprint).run operations).failover.Absorbs first second :=
  ⟨(tracked_run blueprint operations).sweeps first, Failover.absorbs_recover _ first second⟩

/-- The window of one queue has passed at the first of two times, that of another at the second. -/
example :
    let failover := ((fresh {
      capacity := 4, maxFlows := 8, buffersPerNode := 1, ringCapacity := 1 }).run
        [.registry (.register 0 0), .registry (.register 1 0),
          .failover (.setSettings { recoveryWindowMs := 5 }), .failover (.handleFailure 0),
          .advance 10, .failover (.handleFailure 1)]).failover
    (failover.recover 6).1 = [0] ∧ ((failover.recover 6).2.recover 20).1 = [1] ∧
      (failover.recover 20).1 = [0, 1] ∧ ((failover.recover 20).2.recover 6).1 = [] := by
  decide

end System

end FlowSteer
