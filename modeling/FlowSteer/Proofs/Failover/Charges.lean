import FlowSteer.Proofs.Failover.Recovery

/-!
# What becomes of one outage

At one time of the clock the outage of a queue stays as it is, is closed, or is charged with a
failure or with a remap by hand (`Outage.Becomes`, which also bounds the number of charges).

1. `Becomes.handling`, `Becomes.remapByHand`, `Becomes.recover`, `Becomes.placeFlow`,
   `Becomes.checkHealth`: that is all that the operations of failover do to it.
2. `Becomes.counted`: an open outage has the failures of at least one charge, as a word.
3. `Becomes.dated`: it opened no later than its latest charge, which lies in the past.
-/

namespace FlowSteer

namespace Outage

/-! ## Charges -/

/-- The outage after a charge at some time. A remap by hand counts as a failure only when it opens
the outage. -/
structure Charged (now : Nat) (before? : Option Outage) (after : Outage) : Prop where
  failures : after.failures = (before?.elim 0 (·.failures) + 1) % wordSize32 ∨
    ∃ before, before? = some before ∧ after.failures = before.failures
  latest : after.lastFailure = now
  opened : after.since = before?.elim now (·.since)

theorem Charged.afterFailure (failover : Failover) (id : QueueId) (now : Nat) :
    Charged now (failover.outages.get? id) (failover.afterFailure id now) := by
  unfold Failover.afterFailure
  cases failover.outages.get? id with
  | none => exact ⟨.inl rfl, rfl, rfl⟩
  | some outage => exact ⟨.inl rfl, rfl, rfl⟩

theorem Charged.afterManual (failover : Failover) (id : QueueId) (now : Nat) :
    Charged now (failover.outages.get? id) (failover.afterManual id now) := by
  unfold Failover.afterManual
  cases failover.outages.get? id with
  | none => exact ⟨.inl rfl, rfl, rfl⟩
  | some outage => exact ⟨.inr ⟨outage, rfl, rfl⟩, rfl, rfl⟩

/-- What may become of an outage, or of none, at one time of the clock, with at most so many
charges. -/
inductive Becomes (now : Nat) (before? : Option Outage) : Nat → Option Outage → Prop
  | same {charges : Nat} : Becomes now before? charges before?
  | closed {charges : Nat} : Becomes now before? charges none
  | charged {charges : Nat} {middle? : Option Outage} {after : Outage} :
      Becomes now before? charges middle? → Charged now middle? after →
      Becomes now before? (charges + 1) (some after)

/-! ## Invariants -/

/-- The outage, if it is open, has been charged, but no more than so many times. -/
def Counted (limit : Nat) (outage? : Option Outage) : Prop :=
  ∀ outage, outage? = some outage →
    ∃ count, 1 ≤ count ∧ count ≤ limit ∧ outage.failures = count % wordSize32

/-- The outage, if it is open, opened no later than its latest charge, which lies in the past. -/
def Dated (now : Nat) (outage? : Option Outage) : Prop :=
  ∀ outage, outage? = some outage → outage.since ≤ outage.lastFailure ∧ outage.lastFailure ≤ now

theorem Dated.mono {earlier now : Nat} {outage? : Option Outage} (dated : Dated earlier outage?)
    (passed : earlier ≤ now) : Dated now outage? := by
  intro outage isOpen
  obtain ⟨ordered, past⟩ := dated outage isOpen
  exact ⟨ordered, Nat.le_trans past passed⟩

namespace Becomes

variable {now earlier charges more limit : Nat} {before? middle? after? : Option Outage}

theorem mono (becomes : Becomes now before? charges after?) (more : Nat) :
    Becomes now before? (charges + more) after? := by
  induction becomes with
  | same => exact .same
  | closed => exact .closed
  | charged _ charged ih =>
      rw [Nat.add_right_comm]
      exact .charged ih charged

theorem trans (first : Becomes now before? charges middle?)
    (second : Becomes now middle? more after?) : Becomes now before? (charges + more) after? := by
  induction second with
  | same => exact first.mono _
  | closed => exact .closed
  | charged _ charged ih => exact .charged ih charged

theorem counted (becomes : Becomes now before? charges after?) (start : Counted limit before?) :
    Counted (limit + charges) after? := by
  induction becomes with
  | same =>
      intro outage isOpen
      obtain ⟨count, positive, within, failures⟩ := start outage isOpen
      exact ⟨count, positive, Nat.le_add_right_of_le within, failures⟩
  | closed => exact nofun
  | @charged charges middle? after _ charged ih =>
      rintro _ ⟨⟩
      rcases charged.failures with failures | ⟨outage, isOpen, failures⟩
      · cases middle? with
        | none => exact ⟨1, Nat.le_refl 1, Nat.le_add_left 1 (limit + charges), failures⟩
        | some outage =>
            obtain ⟨count, -, within, counted⟩ := ih outage rfl
            refine ⟨count + 1, Nat.le_add_left 1 count, Nat.succ_le_succ within, ?_⟩
            rw [failures, Option.elim_some, counted, Nat.mod_add_mod]
      · obtain ⟨count, positive, within, counted⟩ := ih outage isOpen
        exact ⟨count, positive, Nat.le_succ_of_le within, failures.trans counted⟩

theorem dated (becomes : Becomes now before? charges after?) (start : Dated earlier before?)
    (passed : earlier ≤ now) : Dated now after? := by
  induction becomes with
  | same => exact start.mono passed
  | closed => exact nofun
  | @charged charges middle? after _ charged ih =>
      rintro _ ⟨⟩
      rw [charged.latest, charged.opened]
      refine ⟨?_, Nat.le_refl now⟩
      cases middle? with
      | none => exact Nat.le_refl now
      | some outage =>
          obtain ⟨ordered, past⟩ := ih outage rfl
          exact Nat.le_trans ordered past

/-! ## Operations of failover -/

variable {failover : Failover}

/-- An outage is put on record for one queue. -/
theorem insert {outage : Outage} {source : QueueId}
    (charged : Charged now (failover.outages.get? source) outage) (id : QueueId) :
    Becomes now (failover.outages.get? id) (if source = id then 1 else 0)
      ((failover.outages.insert source outage).get? id) := by
  rw [IdMap.get?_insert]
  by_cases same : id = source
  · subst same
    rw [if_pos rfl, if_pos rfl]
    exact .charged .same charged
  · rw [if_neg same]
    exact .same

theorem handling (handling : Handling) (id : QueueId) :
    Becomes handling.now (handling.before.outages.get? id) ([handling].countP (·.queue = id))
      (handling.after.outages.get? id) := by
  have counted : [handling].countP (·.queue = id) = if handling.queue = id then 1 else 0 := by
    rw [List.countP_singleton]
    exact if_congr decide_eq_true_iff rfl rfl
  unfold Handling.after
  cases found : handling.before.registry.queues.get? handling.queue with
  | none =>
      rw [Failover.handleFailure_of_absent found]
      exact .same
  | some queue =>
      rw [Failover.outages_handleFailure found, counted]
      exact .insert (.afterFailure handling.before handling.queue handling.now) id

theorem remapByHand (failover : Failover) (source : QueueId) (target? : Option QueueId) (now : Nat)
    (id : QueueId) :
    Becomes now (failover.outages.get? id) (if source = id then 1 else 0)
      ((failover.remapByHand source target? now).2.outages.get? id) := by
  have noted : Becomes now (failover.outages.get? id) (if source = id then 1 else 0)
      ((failover.noteManual source now).outages.get? id) :=
    .insert (.afterManual failover source now) id
  rcases failover.remapByHand_cases source target? now with
    ⟨_, _, result⟩ | ⟨_, _, result⟩ | ⟨_, _, _, _, _, result⟩
  · rw [result]
    exact .same
  · rw [result]
    exact noted
  · rw [result]
    exact noted

theorem recover (failover : Failover) (time now : Nat) (id : QueueId) :
    Becomes now (failover.outages.get? id) 0 ((failover.recover time).2.outages.get? id) := by
  rw [Failover.get?_outages_recover]
  split
  · exact .closed
  · exact .same

theorem placeFlow (failover : Failover) (flow : FlowId) (target : QueueId) (now : Nat)
    (id : QueueId) :
    Becomes now (failover.outages.get? id) 0
      ((failover.placeFlow flow target).2.outages.get? id) := by
  rcases failover.placeFlow_cases flow target with ⟨_, result⟩ | result | ⟨_, _, result⟩ <;>
    rw [result] <;> exact .same

theorem placed {before after : Failover}
    (placed : after = before ∨ ∃ flow target, after = (before.placeFlow flow target).2) (now : Nat)
    (id : QueueId) : Becomes now (before.outages.get? id) 0 (after.outages.get? id) := by
  rcases placed with rfl | ⟨flow, target, rfl⟩
  · exact .same
  · exact .placeFlow before flow target now id

theorem checkQueue (settings : HealthSettings) (now : Nat) (state : CheckReport × Failover)
    (view : QueueView) (id : QueueId) :
    Becomes now (state.2.outages.get? id)
      ((Failover.handlingAt settings now state.2 view).countP (·.queue = id))
      ((Failover.checkQueue settings now state view).2.outages.get? id) := by
  rw [Failover.checkQueue_snd]
  unfold Failover.handlingAt
  cases settings.evaluate view.counters.rxErrors view.counters.txErrors with
  | breached => exact handling { before := state.2, queue := view.queue, now } id
  | degraded =>
      simp only [Failover.switchStatus_snd]
      exact .same
  | healthy =>
      simp only [Failover.switchStatus_snd]
      exact .same

theorem foldl_checkQueue (settings : HealthSettings) (now : Nat) (state : CheckReport × Failover)
    (views : List QueueView) (id : QueueId) :
    Becomes now (state.2.outages.get? id)
      ((Failover.handlingsOf settings now state views).countP (·.queue = id))
      ((views.foldl (Failover.checkQueue settings now) state).2.outages.get? id) := by
  induction views generalizing state with
  | nil => exact .same
  | cons view rest ih =>
      rw [Failover.handlingsOf, List.countP_append]
      exact (checkQueue settings now state view id).trans (ih _)

/-- A health pass charges a queue with its failures, and may close its outage in the end. -/
theorem checkHealth (failover : Failover) (settings : HealthSettings) (now time : Nat)
    (id : QueueId) :
    Becomes now (failover.outages.get? id)
      (((FailoverOp.checkHealth settings time).handlings now failover).countP (·.queue = id))
      ((failover.checkHealth settings now time).2.outages.get? id) := by
  unfold FailoverOp.handlings Failover.checkHealth
  cases failover.settings.enabled with
  | false => exact .same
  | true =>
      have looked := foldl_checkQueue settings now ({}, failover) failover.registry.views id
      exact looked.trans (.recover _ time now id)

end Becomes

end Outage

end FlowSteer
