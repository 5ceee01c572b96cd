import FlowSteer.Proofs.Failover.Breaker
import FlowSteer.Proofs.Failover.Outages

/-!
# Queues out of service

A queue is sidelined since a time when it is failed or recovering and its outage has a failure that
is not older (`Sidelined`). A failure of a queue sidelines it, whether its flows could be moved or
not, and so does a remap by hand; from then on

1. `Prolongs`: whatever failover does, recovery aside, leaves the queue sidelined: an outage is
   never closed and a failure only makes it longer;
2. `Sidelined.late`: recovery puts the queue back into service only when the recovery window has
   passed since then.

A health pass is a number of looks followed by a recovery, so it never takes a queue out of service
and puts it back.
-/

namespace FlowSteer

/-- The queue that had failed. -/
def RemapOutcome.failed : RemapOutcome → QueueId
  | remapped source _ _ => source
  | suppressed queue _ => queue
  | refreshed queue _ => queue

/-- Is the failure one of a queue that is there. -/
def Handling.Present (handling : Handling) : Prop :=
  ∃ queue, handling.before.registry.queues.get? handling.queue = some queue

namespace Failover

/-- The queue is failed or recovering, and its latest failure is not older than a time. -/
structure Sidelined (failover : Failover) (id : QueueId) (since : Nat) : Prop where
  ailing : failover.registry.Ailing id
  recent : ∃ outage, failover.outages.get? id = some outage ∧ since ≤ outage.lastFailure

/-- A queue that is failed or recovering still is, and an outage of it goes on, from a failure now
or from the same as before. -/
structure Prolongs (now : Nat) (id : QueueId) (before after : Failover) : Prop where
  ailing : before.registry.Ailing id → after.registry.Ailing id
  outage : ∀ outage, before.outages.get? id = some outage →
    ∃ later, after.outages.get? id = some later ∧
      (later.lastFailure = outage.lastFailure ∨ later.lastFailure = now)

variable {failover before middle after : Failover} {now since : Nat} {id : QueueId} {queue : Queue}

theorem Sidelined.prolong (sidelined : before.Sidelined id since) (passed : since ≤ now)
    (prolongs : Prolongs now id before after) : after.Sidelined id since where
  ailing := prolongs.ailing sidelined.ailing
  recent := by
    obtain ⟨outage, found, recent⟩ := sidelined.recent
    obtain ⟨later, present, dated⟩ := prolongs.outage outage found
    refine ⟨later, present, ?_⟩
    rcases dated with same | refreshed
    · rw [same]
      exact recent
    · rw [refreshed]
      exact passed

/-! ## What prolongs outages -/

namespace Prolongs

theorem trans (first : Prolongs now id before middle) (second : Prolongs now id middle after) :
    Prolongs now id before after where
  ailing := second.ailing ∘ first.ailing
  outage := by
    intro outage found
    obtain ⟨next, present, dated⟩ := first.outage outage found
    obtain ⟨later, kept, redated⟩ := second.outage next present
    refine ⟨later, kept, ?_⟩
    rcases redated with same | refreshed
    · rw [same]
      exact dated
    · exact .inr refreshed

/-- The outages stay as they are. -/
theorem of_outages (outages : after.outages = before.outages)
    (ailing : before.registry.Ailing id → after.registry.Ailing id) :
    Prolongs now id before after where
  ailing := ailing
  outage := by
    intro outage found
    exact ⟨outage, outages ▸ found, .inl rfl⟩

theorem refl (now : Nat) (id : QueueId) (failover : Failover) : Prolongs now id failover failover :=
  of_outages rfl fun ailing => ailing

/-- A failure of some queue, which gets a status that goes with an outage. -/
theorem note {other : QueueId} {change : Queue → Queue} {outage : Outage}
    (notes : before.Notes after other change outage)
    (ailing : ∀ queue, (change queue).status.isAiling = true) (dated : outage.lastFailure = now) :
    Prolongs now id before after := by
  by_cases same : id = other
  · subst same
    obtain ⟨queue, -, changed⟩ := notes.changed
    exact ⟨fun _ => ⟨_, changed, ailing queue⟩,
      fun _ _ => ⟨outage, notes.recorded, .inr dated⟩⟩
  · constructor
    · rintro ⟨queue, found, ill⟩
      exact ⟨queue, (notes.otherQueues id same).trans found, ill⟩
    · intro old found
      exact ⟨old, (notes.otherOutages id same).trans found, .inl rfl⟩

theorem movedAll {source : QueueId} (ailing : failover.registry.Ailing source) (target : QueueId)
    (moved : Nat) (cause : RemapCause) (time : Nat) :
    Prolongs now id failover (failover.movedAll source target moved cause time) :=
  of_outages rfl (ailing_movedAll ailing target moved cause time id).2

theorem placeFlow (failover : Failover) (flow : FlowId) (target : QueueId) :
    Prolongs now id failover (failover.placeFlow flow target).2 := by
  refine of_outages ?_ (ailing_placeFlow failover flow target id).2
  rcases failover.placeFlow_cases flow target with ⟨_, result⟩ | result | ⟨_, _, result⟩ <;>
    rw [result]

theorem placed (placed : after = before ∨ ∃ flow target, after = (before.placeFlow flow target).2) :
    Prolongs now id before after := by
  rcases placed with rfl | ⟨flow, target, rfl⟩
  · exact .refl now id after
  · exact .placeFlow before flow target

theorem switchStatus (failover : Failover) (other : QueueId) {expected new : QueueStatus}
    (expectedWell : expected.isAiling = false) (newWell : new.isAiling = false) :
    Prolongs now id failover (failover.switchStatus other expected new).2 := by
  refine of_outages ?_ (ailing_switchStatus failover other expectedWell newWell id).2
  rw [switchStatus_snd]

end Prolongs

/-! ## Failures and remaps by hand -/

theorem Sidelined.note {change : Queue → Queue} {outage : Outage}
    (notes : before.Notes after id change outage)
    (ailing : ∀ queue, (change queue).status.isAiling = true) (dated : outage.lastFailure = now) :
    after.Sidelined id now := by
  obtain ⟨queue, -, changed⟩ := notes.changed
  exact ⟨⟨_, changed, ailing queue⟩, outage, notes.recorded, Nat.le_of_eq dated.symm⟩

/-- A failure of a queue that is there is noted, and what may happen further prolongs it. -/
theorem handleFailure_notes (found : failover.registry.queues.get? id = some queue) (now : Nat) :
    ∃ status noted, status.isAiling = true ∧
      failover.Notes noted id (·.clearErrors status) (failover.afterFailure id now) ∧
      ∀ other, Prolongs now other noted (failover.handleFailure id now).2 := by
  have notes := Notes.noteFailure ⟨queue, found⟩ now
  rcases failover.handleFailure_cases id now with
    ⟨absent, _⟩ | ⟨_, _, ⟨_, result⟩ | ⟨_, _, result⟩ | ⟨_, _, _, result⟩ |
      ⟨_, _, target, moved, _, _, result⟩⟩
  · rw [absent] at found
    cases found
  · exact ⟨.recovering, _, rfl, notes .recovering, fun other => result ▸ .refl now other _⟩
  · exact ⟨.failed, _, rfl, notes .failed, fun other => result ▸ .refl now other _⟩
  · exact ⟨.failed, _, rfl, notes .failed, fun other => result ▸ .refl now other _⟩
  · refine ⟨.failed, _, rfl, notes .failed, fun other => ?_⟩
    rw [result]
    obtain ⟨_, -, changed⟩ := (notes .failed).changed
    have moves : Prolongs now other (failover.noteFailure id now .failed) _ :=
      .movedAll ⟨_, changed, rfl⟩ target moved .automatic now
    exact moves.trans (.of_outages rfl fun ailing => ailing)

/-- A remap by hand whose arguments are accepted is noted, and what may happen further prolongs
the outage. -/
theorem remapByHand_notes {target? : Option QueueId}
    (checked : failover.checkRemap id target? = .ok ()) (now : Nat) :
    ∃ noted, failover.Notes noted id ({ · with status := .failed }) (failover.afterManual id now) ∧
      ∀ other, Prolongs now other noted (failover.remapByHand id target? now).2 := by
  have notes := Notes.noteManual (source_of_checkRemap checked) now
  refine ⟨_, notes, fun other => ?_⟩
  rcases failover.remapByHand_cases id target? now with
    ⟨_, refused, _⟩ | ⟨_, _, result⟩ | ⟨_, target, moved, _, _, result⟩
  · rw [checked] at refused
    cases refused
  · rw [result]
    exact .refl now other _
  · rw [result]
    obtain ⟨_, -, changed⟩ := notes.changed
    exact .movedAll ⟨_, changed, rfl⟩ target moved .manual now

theorem Prolongs.handleFailure (failover : Failover) (other : QueueId) (now : Nat) (id : QueueId) :
    Prolongs now id failover (failover.handleFailure other now).2 := by
  cases found : failover.registry.queues.get? other with
  | none =>
      rw [handleFailure_of_absent found]
      exact .refl now id failover
  | some queue =>
      obtain ⟨status, noted, ailing, notes, further⟩ := handleFailure_notes found now
      have dated := failover.lastFailure_afterFailure other now
      exact (Prolongs.note notes (fun _ => ailing) dated).trans (further id)

theorem Prolongs.remapByHand (failover : Failover) (source : QueueId) (target? : Option QueueId)
    (now : Nat) (id : QueueId) :
    Prolongs now id failover (failover.remapByHand source target? now).2 := by
  cases checked : failover.checkRemap source target? with
  | error error =>
      unfold Failover.remapByHand
      rw [checked]
      exact .refl now id failover
  | ok _ =>
      obtain ⟨noted, notes, further⟩ := remapByHand_notes checked now
      have dated := failover.lastFailure_afterManual source now
      exact (Prolongs.note notes (fun _ => rfl) dated).trans (further id)

/-- A failure of a queue sidelines it, whatever becomes of its flows. -/
theorem sidelined_handleFailure (found : failover.registry.queues.get? id = some queue)
    (now : Nat) : (failover.handleFailure id now).2.Sidelined id now := by
  obtain ⟨status, noted, ailing, notes, further⟩ := handleFailure_notes found now
  have dated := failover.lastFailure_afterFailure id now
  exact (Sidelined.note notes (fun _ => ailing) dated).prolong (Nat.le_refl now) (further id)

/-- So does a remap by hand, also when it is refused after all. -/
theorem sidelined_remapByHand {target? : Option QueueId}
    (checked : failover.checkRemap id target? = .ok ()) (now : Nat) :
    (failover.remapByHand id target? now).2.Sidelined id now := by
  obtain ⟨noted, notes, further⟩ := remapByHand_notes checked now
  have dated := failover.lastFailure_afterManual id now
  exact (Sidelined.note notes (fun _ => rfl) dated).prolong (Nat.le_refl now) (further id)

/-! ## The looks of a pass -/

theorem Prolongs.checkQueue (settings : HealthSettings) (now : Nat)
    (state : CheckReport × Failover) (view : QueueView) (id : QueueId) :
    Prolongs now id state.2 (Failover.checkQueue settings now state view).2 := by
  rw [checkQueue_snd]
  split
  · exact .handleFailure state.2 view.queue now id
  · exact .switchStatus state.2 view.queue rfl rfl
  · exact .switchStatus state.2 view.queue rfl rfl

theorem Prolongs.foldl_checkQueue (settings : HealthSettings) (now : Nat)
    (state : CheckReport × Failover) (views : List QueueView) (id : QueueId) :
    Prolongs now id state.2 (views.foldl (Failover.checkQueue settings now) state).2 := by
  induction views generalizing state with
  | nil => exact .refl now id state.2
  | cons view rest ih => exact (Prolongs.checkQueue settings now state view id).trans (ih _)

/-- A queue whose failure is handled in a pass is sidelined at the end of the looks. -/
theorem sidelined_of_mem_handlingsOf {settings : HealthSettings} {now : Nat}
    {state : CheckReport × Failover} {views : List QueueView} {handling : Handling}
    (member : handling ∈ handlingsOf settings now state views) (present : handling.Present) :
    (views.foldl (checkQueue settings now) state).2.Sidelined handling.queue now := by
  induction views generalizing state with
  | nil => cases member
  | cons view rest ih =>
      rcases List.mem_append.1 member with here | later
      · have further := Prolongs.foldl_checkQueue settings now (checkQueue settings now state view)
          rest handling.queue
        refine Sidelined.prolong ?_ (Nat.le_refl now) further
        rw [checkQueue_snd]
        unfold handlingAt at here
        cases verdict : settings.evaluate view.counters.rxErrors view.counters.txErrors with
        | breached =>
            rw [verdict] at here
            obtain rfl := List.mem_singleton.1 here
            obtain ⟨queue, found⟩ := present
            exact sidelined_handleFailure found now
        | degraded =>
            rw [verdict] at here
            cases here
        | healthy =>
            rw [verdict] at here
            cases here
      · exact ih later

/-- What is reported about a failure is about a queue that is there. -/
theorem present_of_outcome {handling : Handling} {outcome : RemapOutcome}
    (reported : handling.outcome? = some outcome) :
    handling.Present ∧ outcome.failed = handling.queue := by
  unfold Handling.outcome? at reported
  rcases handling.before.handleFailure_cases handling.queue handling.now with
    ⟨_, result⟩ | ⟨queue, found, ⟨_, result⟩ | ⟨_, _, result⟩ | ⟨_, _, _, result⟩ |
      ⟨_, _, _, _, _, _, result⟩⟩ <;> rw [result] at reported <;> cases reported
  · exact ⟨⟨queue, found⟩, rfl⟩
  · exact ⟨⟨queue, found⟩, rfl⟩
  · exact ⟨⟨queue, found⟩, rfl⟩

/-! ## Recovery -/

/-- Recovery puts a queue back into service only when the window has passed since any time since
which the queue is sidelined. -/
theorem Sidelined.late (sidelined : failover.Sidelined id since) {time : Nat}
    (recovered : id ∈ (failover.recover time).1) :
    since + failover.settings.recoveryWindowMs.toNat < time := by
  obtain ⟨outage, found, recent⟩ := sidelined.recent
  obtain ⟨other, present, finished⟩ := mem_recover_iff.1 recovered
  rw [found] at present
  cases present
  have passed := isOver_iff.1 finished
  omega

theorem ailing_recover (ailing : failover.registry.Ailing id) {time : Nat}
    (unrecovered : id ∉ (failover.recover time).1) :
    (failover.recover time).2.registry.Ailing id :=
  (OnRecord.recover_ailing failover time id).2 ⟨ailing, unrecovered⟩

/-- Every queue that recovery returns is in service. -/
theorem active_of_mem_recover {time : Nat} (recovered : id ∈ (failover.recover time).1)
    (found : (failover.recover time).2.registry.queues.get? id = some queue) :
    queue.status = .active := by
  rw [get?_queues_recover, if_pos recovered] at found
  obtain ⟨old, -, rfl⟩ := Option.map_eq_some_iff.1 found
  rfl

/-- A queue that recovery does not return stays sidelined. -/
theorem Sidelined.recover (sidelined : failover.Sidelined id since) {time : Nat}
    (unrecovered : id ∉ (failover.recover time).1) :
    (failover.recover time).2.Sidelined id since where
  ailing := ailing_recover sidelined.ailing unrecovered
  recent := by
    obtain ⟨outage, found, recent⟩ := sidelined.recent
    refine ⟨outage, ?_, recent⟩
    rw [get?_outages_recover, if_neg unrecovered]
    exact found

/-! ## The pass -/

/-- A pass that is not left out is a look at every queue and then a recovery. -/
theorem checkHealth_of_enabled (enabled : failover.settings.enabled = true)
    (settings : HealthSettings) (now time : Nat) :
    failover.checkHealth settings now time =
      let looked := failover.registry.views.foldl (checkQueue settings now) ({}, failover)
      ({ looked.1 with recovered := (looked.2.recover time).1 }, (looked.2.recover time).2) := by
  unfold checkHealth
  rw [enabled]
  rfl

/-- A queue whose failure is handled in a pass at the time of the clock is sidelined after it. -/
theorem sidelined_checkHealth {settings : HealthSettings} {handling : Handling}
    (member : handling ∈ (FailoverOp.checkHealth settings now).handlings now failover)
    (present : handling.Present) :
    (failover.checkHealth settings now now).2.Sidelined handling.queue now := by
  unfold FailoverOp.handlings at member
  cases enabled : failover.settings.enabled with
  | false =>
      rw [enabled] at member
      cases member
  | true =>
      rw [enabled] at member
      rw [checkHealth_of_enabled enabled]
      have sidelined := sidelined_of_mem_handlingsOf member present
      apply sidelined.recover
      -- The pass ends with a recovery at the time of the failure, when no window has passed yet.
      intro recovered
      have late := sidelined.late recovered
      omega

/-- A pass at the time of the clock does not report a queue as failed and as recovered. -/
theorem not_recovered_of_failed {settings : HealthSettings} {outcome : RemapOutcome}
    (reported : outcome ∈ (failover.checkHealth settings now now).1.failures) :
    outcome.failed ∉ (failover.checkHealth settings now now).1.recovered := by
  cases enabled : failover.settings.enabled with
  | false =>
      unfold checkHealth at reported
      rw [enabled] at reported
      cases reported
  | true =>
      rw [checkHealth_of_enabled enabled] at reported ⊢
      intro recovered
      rw [failures_foldl_checkQueue, List.nil_append] at reported
      obtain ⟨handling, member, result⟩ := List.mem_filterMap.1 reported
      obtain ⟨present, same⟩ := present_of_outcome result
      rw [same] at recovered
      have sidelined := sidelined_of_mem_handlingsOf member present
      have late := sidelined.late recovered
      omega

end Failover

end FlowSteer
