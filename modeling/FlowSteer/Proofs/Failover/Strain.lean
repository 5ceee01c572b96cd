import FlowSteer.Proofs.Failover.Quarantine

/-!
# Status and errors of the queues

The health monitor goes by the strain of a queue: its status, and its errors in the worse
direction. What failover does to one queue leaves the strain of all others as it was
(`KeepsOthers`):

* `KeepsOthers.handleFailure`, `KeepsOthers.remapByHand`: also when the flows of the queue move to
  another;
* `KeepsOthers.checkQueue`: so does the look at one queue in a health pass.

For the queue itself, `recovering_handleFailure` and `switchStatus_of_status_ne` tell when nothing
of its status changes.
-/

namespace FlowSteer

/-- What the health monitor goes by: the status of a queue, and its errors in the worse
direction. -/
def Queue.strain (queue : Queue) : QueueStatus × Nat := (queue.status, queue.counters.worstErrors)

namespace Registry

/-- Is the queue there, with a status. -/
def HasStatus (registry : Registry) (id : QueueId) (status : QueueStatus) : Prop :=
  ∃ queue, registry.queues.get? id = some queue ∧ queue.status = status

instance (registry : Registry) (id : QueueId) (status : QueueStatus) :
    Decidable (registry.HasStatus id status) :=
  decidable_of_iff ((registry.queues.get? id).any (·.status == status) = true) <| by
    simp [HasStatus, Option.any_eq_true]

/-- The strain of a queue, if it is there. -/
def strain (registry : Registry) (id : QueueId) : Option (QueueStatus × Nat) :=
  (registry.queues.get? id).map Queue.strain

variable {registry before after : Registry} {id other : QueueId} {status : QueueStatus}

theorem strain_of_get? {queue : Queue} (found : registry.queues.get? id = some queue) :
    registry.strain id = some queue.strain := by
  unfold strain
  rw [found, Option.map_some]

theorem HasStatus.of_strain (had : before.HasStatus id status)
    (same : after.strain id = before.strain id) : after.HasStatus id status := by
  obtain ⟨queue, found, equal⟩ := had
  rw [strain_of_get? found] at same
  obtain ⟨later, present, strain⟩ := Option.map_eq_some_iff.1 same
  exact ⟨later, present, (congrArg Prod.fst strain).trans equal⟩

theorem HasStatus.of_keeps (had : before.HasStatus id status)
    (same : Keeps Queue.status before after) : after.HasStatus id status := by
  obtain ⟨queue, found, equal⟩ := had
  obtain ⟨later, present, kept⟩ := same.of_before found
  exact ⟨later, present, kept.trans equal⟩

/-- A queue has one status. -/
theorem HasStatus.eq {first second : QueueStatus} (one : registry.HasStatus id first)
    (another : registry.HasStatus id second) : first = second := by
  obtain ⟨queue, found, rfl⟩ := one
  obtain ⟨again, present, rfl⟩ := another
  rw [found] at present
  cases present
  rfl

theorem ailing_iff_hasStatus :
    registry.Ailing id ↔ registry.HasStatus id .failed ∨ registry.HasStatus id .recovering := by
  unfold Ailing HasStatus
  simp only [QueueStatus.isAiling_iff, and_or_left, exists_or]

/-- Changing one queue leaves the others. -/
theorem strain_adjust (different : other ≠ id) (registry : Registry) (change : Queue → Queue) :
    (registry.adjust id change).strain other = registry.strain other := by
  unfold strain
  rw [get?_adjust, if_neg different]

end Registry

namespace Failover

variable {failover before middle after : Failover} {id : QueueId} {queue : Queue} {now : Nat}

/-- All queues but one have the strain that they had. -/
def KeepsOthers (id : QueueId) (before after : Failover) : Prop :=
  ∀ other, other ≠ id → after.registry.strain other = before.registry.strain other

namespace KeepsOthers

theorem refl (id : QueueId) (failover : Failover) : KeepsOthers id failover failover :=
  fun _ _ => rfl

theorem trans (first : KeepsOthers id before middle) (second : KeepsOthers id middle after) :
    KeepsOthers id before after :=
  fun other different => (second other different).trans (first other different)

theorem note {change : Queue → Queue} {outage : Outage}
    (notes : before.Notes after id change outage) : KeepsOthers id before after := by
  intro other different
  unfold Registry.strain
  rw [notes.otherQueues other different]

theorem movedAll (failover : Failover) (source target : QueueId) (moved : Nat)
    (cause : RemapCause) (time : Nat) :
    KeepsOthers source failover (failover.movedAll source target moved cause time) := by
  intro other different
  show ((failover.registry.moveAll source target).2.clearErrors source .recovering).2.strain other =
    failover.registry.strain other
  rw [Registry.clearErrors_snd, Registry.strain_adjust different]
  exact Registry.keeps_moveAll (fun _ _ => rfl) source target other

/-- A failure of a queue leaves the strain of the others, wherever its flows move. -/
theorem handleFailure (failover : Failover) (id : QueueId) (now : Nat) :
    KeepsOthers id failover (failover.handleFailure id now).2 := by
  rcases failover.handleFailure_cases id now with
    ⟨_, result⟩ | ⟨queue, found, ⟨_, result⟩ | ⟨_, _, result⟩ | ⟨_, _, _, result⟩ |
      ⟨_, _, target, moved, _, _, result⟩⟩
  · rw [result]
    exact .refl id failover
  · rw [result]
    exact .note (.noteFailure ⟨queue, found⟩ now .recovering)
  · rw [result]
    exact .note (.noteFailure ⟨queue, found⟩ now .failed)
  · rw [result]
    exact .note (.noteFailure ⟨queue, found⟩ now .failed)
  · rw [result]
    have noted : KeepsOthers id failover (failover.noteFailure id now .failed) :=
      .note (.noteFailure ⟨queue, found⟩ now .failed)
    exact noted.trans (.movedAll _ id target moved .automatic now)

theorem remapByHand (failover : Failover) (source : QueueId) (target? : Option QueueId)
    (now : Nat) : KeepsOthers source failover (failover.remapByHand source target? now).2 := by
  rcases failover.remapByHand_cases source target? now with
    ⟨_, _, result⟩ | ⟨checked, _, result⟩ | ⟨checked, target, moved, _, _, result⟩
  · rw [result]
    exact .refl source failover
  · rw [result]
    exact .note (.noteManual (source_of_checkRemap checked) now)
  · rw [result]
    have noted : KeepsOthers source failover (failover.noteManual source now) :=
      .note (.noteManual (source_of_checkRemap checked) now)
    exact noted.trans (.movedAll _ source target moved .manual now)

theorem switchStatus (failover : Failover) (id : QueueId) (expected new : QueueStatus) :
    KeepsOthers id failover (failover.switchStatus id expected new).2 := by
  intro other different
  rw [switchStatus_snd, Registry.updateStatus_snd]
  exact Registry.strain_adjust different failover.registry _

/-- So does the look at one queue in a health pass. -/
theorem checkQueue (settings : HealthSettings) (now : Nat) (state : CheckReport × Failover)
    (view : QueueView) :
    KeepsOthers view.queue state.2 (Failover.checkQueue settings now state view).2 := by
  rw [checkQueue_snd]
  split
  · exact .handleFailure state.2 view.queue now
  · exact .switchStatus state.2 view.queue .active .degraded
  · exact .switchStatus state.2 view.queue .degraded .active

end KeepsOthers

/-! ## The queue itself -/

/-- A failure of a recovering queue leaves it recovering. -/
theorem recovering_handleFailure (recovering : failover.registry.HasStatus id .recovering)
    (now : Nat) : (failover.handleFailure id now).2.registry.HasStatus id .recovering := by
  obtain ⟨queue, found, status⟩ := recovering
  rw [handleFailure_of_recovering found status]
  obtain ⟨old, -, changed⟩ := (Notes.noteFailure ⟨queue, found⟩ now .recovering).changed
  exact ⟨_, changed, rfl⟩

/-- A status that is not the expected one is not switched. -/
theorem switchStatus_of_status_ne {expected status : QueueStatus}
    (has : failover.registry.HasStatus id status) (different : status ≠ expected)
    (new : QueueStatus) : failover.switchStatus id expected new = (false, failover) := by
  obtain ⟨queue, found, rfl⟩ := has
  have unchosen : (if (queue.view id).status = expected then some new else none) = none :=
    if_neg different
  unfold switchStatus Registry.updateStatus
  simp only [Registry.queue_of_get? found, unchosen]

end Failover

end FlowSteer
