import FlowSteer.Proofs.Failover.Remaps
import FlowSteer.Proofs.Runs

/-!
# The count of automatic remaps

A failure that leads to a remap counts one, and happens below the cap; nothing else counts. This
module numbers the failures that an operation of failover handles.

1. `Counts.handleFailure`: one failure.
2. `Counts.failoverOp`: the failures that an operation handles, one after another.
3. `failureOutcomes_eq`: an operation reports what became of each of them, unless it was refused.
4. `Numbered.bounded`: so the count stays within one of the caps that were in force.
5. `Suppresses.of_capped`: at the cap, a failure of a queue is on record and nothing moves.
-/

namespace FlowSteer

/-- Have flows moved. -/
def RemapOutcome.isRemapped : RemapOutcome → Bool
  | remapped .. => true
  | suppressed .. | refreshed .. => false

/-- A failure that is handled, with the state in which it finds failover. -/
structure Handling where
  before : Failover
  queue : QueueId
  now : Nat

namespace Handling

/-- Failover after the failure. -/
def after (handling : Handling) : Failover :=
  (handling.before.handleFailure handling.queue handling.now).2

/-- What became of the failure, unless the remap was refused. -/
def outcome? (handling : Handling) : Option RemapOutcome :=
  (handling.before.handleFailure handling.queue handling.now).1.toOption

/-- Did the failure lead to a remap. -/
def remaps (handling : Handling) : Bool := handling.outcome?.any (·.isRemapped)

/-- The cap that was in force. -/
def cap (handling : Handling) : Nat := handling.before.settings.maxFailoverCount.toNat

end Handling

namespace Failover

/-- The failure that the look at one queue handles, if there is one. -/
def handlingAt (settings : HealthSettings) (now : Nat) (failover : Failover) (view : QueueView) :
    List Handling :=
  match settings.evaluate view.counters.rxErrors view.counters.txErrors with
  | .breached => [{ before := failover, queue := view.queue, now }]
  | .degraded | .healthy => []

/-- Failures that the look at some queues handles, in order. -/
def handlingsOf (settings : HealthSettings) (now : Nat) :
    CheckReport × Failover → List QueueView → List Handling
  | _, [] => []
  | state, view :: rest =>
      handlingAt settings now state.2 view ++
        handlingsOf settings now (checkQueue settings now state view) rest

end Failover

namespace FailoverOp

/-- Failures that an operation handles, in order. -/
def handlings (now : Nat) (failover : Failover) : FailoverOp → List Handling
  | handleFailure id => [{ before := failover, queue := id, now }]
  | checkHealth settings _ =>
      if failover.settings.enabled then
        Failover.handlingsOf settings now ({}, failover) failover.registry.views
      else []
  | setSettings _ | remapByHand .. | recover _ | placeFlow .. => []

/-- What an operation reports about the failures that it handles. -/
def failureOutcomes (now : Nat) (failover : Failover) : FailoverOp → List RemapOutcome
  | handleFailure id => (failover.handleFailure id now).1.toOption.toList
  | checkHealth settings time => (failover.checkHealth settings now time).1.failures
  | setSettings _ | remapByHand .. | recover _ | placeFlow .. => []

/-- The settings that an operation puts in force. -/
def newSettings? : FailoverOp → Option FailoverSettings
  | setSettings settings => some settings
  | _ => none

end FailoverOp

namespace Failover

variable {failover before middle after : Failover}

/-! ## What does not count -/

/-- The number of automatic remaps and the settings stay as they are. -/
structure KeepsCount (before after : Failover) : Prop where
  failovers : after.failovers = before.failovers
  settings : after.settings = before.settings

namespace KeepsCount

theorem remapByHand (failover : Failover) (source : QueueId) (target? : Option QueueId)
    (now : Nat) : KeepsCount failover (failover.remapByHand source target? now).2 := by
  rcases failover.remapByHand_cases source target? now with
    ⟨_, _, result⟩ | ⟨_, _, result⟩ | ⟨_, _, _, _, _, result⟩ <;> rw [result] <;> exact ⟨rfl, rfl⟩

theorem recover (failover : Failover) (time : Nat) :
    KeepsCount failover (failover.recover time).2 := ⟨rfl, rfl⟩

theorem placeFlow (failover : Failover) (flow : FlowId) (target : QueueId) :
    KeepsCount failover (failover.placeFlow flow target).2 := by
  rcases failover.placeFlow_cases flow target with ⟨_, result⟩ | result | ⟨_, _, result⟩ <;>
    rw [result] <;> exact ⟨rfl, rfl⟩

theorem switchStatus (failover : Failover) (id : QueueId) (expected new : QueueStatus) :
    KeepsCount failover (failover.switchStatus id expected new).2 := by
  rw [switchStatus_snd]
  exact ⟨rfl, rfl⟩

end KeepsCount

/-! ## What counts -/

/-- Some failures find the count as the ones before have left it, and lead to a remap only below
the cap. -/
def Numbered : Nat → List Handling → Prop
  | _, [] => True
  | count, handling :: rest =>
      handling.before.failovers = count ∧ (handling.remaps = true → count < handling.cap) ∧
        Numbered (count + handling.remaps.toNat) rest

/-- The count goes from one state to another by some failures. -/
structure Counts (before after : Failover) (handlings : List Handling) : Prop where
  numbered : Numbered before.failovers handlings
  counted : after.failovers = before.failovers + handlings.countP (·.remaps)

theorem count_cons (count : Nat) (handling : Handling) (rest : List Handling) :
    count + handling.remaps.toNat + rest.countP (·.remaps) =
      count + (handling :: rest).countP (·.remaps) := by
  rw [List.countP_cons]
  cases handling.remaps with
  | false => simp
  | true =>
      simp only [if_true, Bool.toNat_true]
      omega

theorem numbered_append {count : Nat} {first second : List Handling} :
    Numbered count (first ++ second) ↔
      Numbered count first ∧ Numbered (count + first.countP (·.remaps)) second := by
  induction first generalizing count with
  | nil => simp [Numbered]
  | cons handling rest ih =>
      rw [List.cons_append, Numbered, Numbered, ih, count_cons, and_assoc, and_assoc]

namespace Counts

theorem append {first second : List Handling} (earlier : Counts before middle first)
    (later : Counts middle after second) : Counts before after (first ++ second) where
  numbered := by
    refine numbered_append.2 ⟨earlier.numbered, ?_⟩
    rw [← earlier.counted]
    exact later.numbered
  counted := by rw [later.counted, earlier.counted, List.countP_append, Nat.add_assoc]

theorem of_same (same : after.failovers = before.failovers) : Counts before after [] where
  numbered := trivial
  counted := same

/-- A failure counts when it leads to a remap, which happens below the cap. -/
theorem handleFailure (handling : Handling) :
    Counts handling.before handling.after [handling] := by
  suffices counted : (handling.remaps = true → handling.before.failovers < handling.cap) ∧
      handling.after.failovers = handling.before.failovers + handling.remaps.toNat by
    refine ⟨⟨rfl, counted.1, trivial⟩, ?_⟩
    rw [counted.2, List.countP_singleton]
    cases handling.remaps <;> rfl
  unfold Handling.after Handling.remaps Handling.outcome? Handling.cap
  -- Only the last way out is a remap.
  rcases handling.before.handleFailure_cases handling.queue handling.now with
    ⟨_, result⟩ | ⟨_, _, ⟨_, result⟩ | ⟨_, _, result⟩ | ⟨_, _, _, result⟩ |
      ⟨_, below, _, _, _, _, result⟩⟩ <;> rw [result]
  · exact ⟨nofun, rfl⟩
  · exact ⟨nofun, rfl⟩
  · exact ⟨nofun, rfl⟩
  · exact ⟨nofun, rfl⟩
  · exact ⟨fun _ => below, rfl⟩

/-- A remap that is refused does not count. -/
theorem failovers_of_refused {id : QueueId} {now : Nat} {error : ControlError}
    (refused : failover.handleFailure id now = (.error error, after)) :
    after.failovers = failover.failovers := by
  have counted := (handleFailure { before := failover, queue := id, now }).counted
  simp only [List.countP_cons, List.countP_nil, Handling.remaps, Handling.outcome?,
    Handling.after, refused] at counted
  exact counted

/-- The look at one queue. -/
theorem checkQueue (settings : HealthSettings) (now : Nat) (state : CheckReport × Failover)
    (view : QueueView) :
    Counts state.2 (Failover.checkQueue settings now state view).2
      (handlingAt settings now state.2 view) := by
  rw [checkQueue_snd]
  unfold handlingAt
  cases settings.evaluate view.counters.rxErrors view.counters.txErrors with
  | breached => exact handleFailure { before := state.2, queue := view.queue, now }
  | degraded => exact of_same (KeepsCount.switchStatus state.2 view.queue _ _).failovers
  | healthy => exact of_same (KeepsCount.switchStatus state.2 view.queue _ _).failovers

/-- The look at some queues, one after another. -/
theorem foldl_checkQueue (settings : HealthSettings) (now : Nat) (state : CheckReport × Failover)
    (views : List QueueView) :
    Counts state.2 (views.foldl (Failover.checkQueue settings now) state).2
      (handlingsOf settings now state views) := by
  induction views generalizing state with
  | nil => exact of_same rfl
  | cons view rest ih => exact (checkQueue settings now state view).append (ih _)

/-- The failures that an operation handles are all that counts. -/
theorem failoverOp (failover : Failover) (op : FailoverOp) (now : Nat) :
    Counts failover (op.apply now failover) (op.handlings now failover) := by
  cases op with
  | setSettings settings => exact of_same rfl
  | handleFailure id => exact handleFailure { before := failover, queue := id, now }
  | remapByHand source target? =>
      exact of_same (KeepsCount.remapByHand failover source target? now).failovers
  | recover time => exact of_same (KeepsCount.recover failover time).failovers
  | placeFlow flow target => exact of_same (KeepsCount.placeFlow failover flow target).failovers
  | checkHealth settings time =>
      unfold FailoverOp.apply FailoverOp.handlings checkHealth
      cases failover.settings.enabled with
      | false => exact of_same rfl
      | true =>
          -- The recovery at the end of the pass does not count.
          have pass := foldl_checkQueue settings now ({}, failover) failover.registry.views
          exact ⟨pass.numbered, pass.counted⟩

end Counts

/-! ## What is reported -/

/-- The look at one queue reports what became of its failure. -/
theorem failures_checkQueue (settings : HealthSettings) (now : Nat)
    (state : CheckReport × Failover) (view : QueueView) :
    (checkQueue settings now state view).1.failures =
      state.1.failures ++ (handlingAt settings now state.2 view).filterMap (·.outcome?) := by
  unfold checkQueue handlingAt
  cases settings.evaluate view.counters.rxErrors view.counters.txErrors with
  | breached =>
      simp only [List.filterMap_cons, List.filterMap_nil, Handling.outcome?]
      cases result : state.2.handleFailure view.queue now with
      | mk outcome failover =>
          cases outcome with
          | error error => exact (List.append_nil _).symm
          | ok outcome => rfl
  | degraded =>
      simp only [List.filterMap_nil, List.append_nil]
      cases result : state.2.switchStatus view.queue .active .degraded with
      | mk changed failover => cases changed <;> rfl
  | healthy =>
      simp only [List.filterMap_nil, List.append_nil]
      cases result : state.2.switchStatus view.queue .degraded .active with
      | mk changed failover => cases changed <;> rfl

theorem failures_foldl_checkQueue (settings : HealthSettings) (now : Nat)
    (state : CheckReport × Failover) (views : List QueueView) :
    (views.foldl (checkQueue settings now) state).1.failures =
      state.1.failures ++ (handlingsOf settings now state views).filterMap (·.outcome?) := by
  induction views generalizing state with
  | nil => exact (List.append_nil _).symm
  | cons view rest ih =>
      rw [List.foldl_cons, ih, failures_checkQueue, handlingsOf, List.filterMap_append,
        List.append_assoc]

/-- An operation reports what became of the failures that it handles, but for refused remaps. -/
theorem failureOutcomes_eq (failover : Failover) (op : FailoverOp) (now : Nat) :
    op.failureOutcomes now failover = (op.handlings now failover).filterMap (·.outcome?) := by
  cases op with
  | setSettings settings => rfl
  | handleFailure id =>
      unfold FailoverOp.failureOutcomes FailoverOp.handlings
      simp only [List.filterMap_cons, List.filterMap_nil, Handling.outcome?]
      cases (failover.handleFailure id now).1 <;> rfl
  | remapByHand source target? => rfl
  | recover time => rfl
  | placeFlow flow target => rfl
  | checkHealth settings time =>
      unfold FailoverOp.failureOutcomes FailoverOp.handlings checkHealth
      cases failover.settings.enabled with
      | false => rfl
      | true => exact failures_foldl_checkQueue settings now ({}, failover) failover.registry.views

/-! ## The cap -/

/-- Numbered failures that led to a remap at all have stayed within the cap of one of them. -/
theorem Numbered.bounded {count : Nat} {handlings : List Handling}
    (numbered : Numbered count handlings) :
    handlings.countP (·.remaps) = 0 ∨
      ∃ handling ∈ handlings, count + handlings.countP (·.remaps) ≤ handling.cap := by
  induction handlings generalizing count with
  | nil => exact .inl rfl
  | cons handling rest ih =>
      obtain ⟨-, below, later⟩ := numbered
      -- The last failure that led to a remap bounds the count: one of the rest, or else this one.
      rcases ih later with none | ⟨last, member, within⟩
      · cases remaps : handling.remaps with
        | false =>
            refine .inl ?_
            rw [List.countP_cons, none, remaps]
            rfl
        | true =>
            refine .inr ⟨handling, List.mem_cons_self, ?_⟩
            rw [← count_cons, none, remaps]
            exact below remaps
      · refine .inr ⟨last, List.mem_cons_of_mem _ member, ?_⟩
        rw [← count_cons]
        exact within

theorem settings_handleFailure (failover : Failover) (id : QueueId) (now : Nat) :
    (failover.handleFailure id now).2.settings = failover.settings := by
  rcases failover.handleFailure_cases id now with
    ⟨_, result⟩ | ⟨_, _, ⟨_, result⟩ | ⟨_, _, result⟩ | ⟨_, _, _, result⟩ |
      ⟨_, _, _, _, _, _, result⟩⟩ <;> rw [result] <;> rfl

theorem settings_checkQueue (settings : HealthSettings) (now : Nat)
    (state : CheckReport × Failover) (view : QueueView) :
    (checkQueue settings now state view).2.settings = state.2.settings := by
  rw [checkQueue_snd]
  split
  · exact settings_handleFailure state.2 view.queue now
  · exact (KeepsCount.switchStatus state.2 view.queue .active .degraded).settings
  · exact (KeepsCount.switchStatus state.2 view.queue .degraded .active).settings

theorem settings_foldl_checkQueue (settings : HealthSettings) (now : Nat)
    (state : CheckReport × Failover) (views : List QueueView) :
    (views.foldl (checkQueue settings now) state).2.settings = state.2.settings := by
  induction views generalizing state with
  | nil => rfl
  | cons view rest ih => rw [List.foldl_cons, ih, settings_checkQueue]

/-- Only new settings change the settings. -/
theorem settings_failoverOp (failover : Failover) (op : FailoverOp) (now : Nat) :
    (op.apply now failover).settings = op.newSettings?.getD failover.settings := by
  cases op with
  | setSettings settings => rfl
  | handleFailure id => exact settings_handleFailure failover id now
  | remapByHand source target? =>
      exact (KeepsCount.remapByHand failover source target? now).settings
  | recover time => rfl
  | placeFlow flow target => exact (KeepsCount.placeFlow failover flow target).settings
  | checkHealth settings time =>
      refine @checkHealth_induct failover (·.settings = failover.settings) settings now time rfl
        ?_ ?_
      · intro state view kept
        rw [settings_checkQueue, kept]
      · exact fun _ kept => kept

/-- The failures of a pass are all handled at its time, under the settings at its start. -/
theorem of_mem_handlingsOf {settings : HealthSettings} {now : Nat}
    {state : CheckReport × Failover} {views : List QueueView} {handling : Handling}
    (member : handling ∈ handlingsOf settings now state views) :
    handling.now = now ∧ handling.before.settings = state.2.settings := by
  induction views generalizing state with
  | nil => cases member
  | cons view rest ih =>
      rcases List.mem_append.1 member with here | later
      · unfold handlingAt at here
        split at here
        · rw [List.mem_singleton.1 here]
          exact ⟨rfl, rfl⟩
        · cases here
        · cases here
      · rw [← settings_checkQueue settings now state view]
        exact ih later

/-- The failures that an operation handles happen at the time of the clock, under the settings at
its start. -/
theorem of_mem_handlings {op : FailoverOp} {now : Nat} {handling : Handling}
    (member : handling ∈ op.handlings now failover) :
    handling.now = now ∧ handling.before.settings = failover.settings := by
  cases op with
  | handleFailure id =>
      rw [List.mem_singleton.1 member]
      exact ⟨rfl, rfl⟩
  | checkHealth settings time =>
      change handling ∈ if failover.settings.enabled then
        handlingsOf settings now ({}, failover) failover.registry.views else [] at member
      split at member
      · exact of_mem_handlingsOf member
      · cases member
  | setSettings settings => cases member
  | remapByHand source target? => cases member
  | recover time => cases member
  | placeFlow flow target => cases member

/-! ## At the cap -/

/-- A failure of a queue is on record, with one failure more, and the queue is failed without
errors. All the rest is as it was: no flow has moved. -/
structure Suppresses (before after : Failover) (id : QueueId) (now failures : Nat) : Prop where
  noted : before.Notes after id (·.clearErrors .failed) (before.afterFailure id now)
  counted : (after.outages.get? id).map (·.failures) = some failures
  /-- The number of failures is a 32-bit word. -/
  word : failures = ((before.outages.get? id).elim 0 (·.failures) + 1) % wordSize32
  /-- So it is one more than before, unless it runs over. -/
  more : (before.outages.get? id).elim 0 (·.failures) + 1 < wordSize32 →
    failures = (before.outages.get? id).elim 0 (·.failures) + 1

theorem Suppresses.of_capped {id : QueueId} {queue : Queue}
    (found : failover.registry.queues.get? id = some queue)
    (notRecovering : queue.status ≠ .recovering)
    (capped : failover.settings.maxFailoverCount.toNat ≤ failover.failovers) (now : Nat) :
    ∃ failures after, failover.handleFailure id now = (.ok (.suppressed id failures), after) ∧
      Suppresses failover after id now failures := by
  have notes := Notes.noteFailure ⟨queue, found⟩ now .failed
  have word := failures_afterFailure failover id now
  refine ⟨_, _, handleFailure_of_capped found notRecovering capped now, notes, ?_, word, ?_⟩
  · rw [notes.recorded, Option.map_some]
  · exact fun fits => word.trans (Nat.mod_eq_of_lt fits)

end Failover

end FlowSteer
