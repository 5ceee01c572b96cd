import Mathlib.Data.List.DropRight
import FlowSteer.Proofs.Failover.Breaker

/-!
# The history of remaps

A completed remap is appended to the history, of which no more is kept than the settings in force
say. This module lists the remaps that an operation of failover completes, as the operation reports
them, and tells what they make of the history.

1. `keepRecent_rtake`, `keepRecent_suffix`: appending and trimming, one remap after another, leaves
   the end of the list of all remaps.
2. `Extends.handleFailure`, `Extends.remapByHand`: a failure, or a request by hand, appends its
   remap if it completes one, and nothing else.
3. `Extends.failoverOp`: the remaps that an operation completes are appended in order.
-/

namespace FlowSteer

/-- The remap that an outcome tells of, if flows have moved. -/
def RemapOutcome.remap? (cause : RemapCause) (time : Nat) : RemapOutcome → Option Remap
  | remapped source target flowsMoved => some { source, target, flowsMoved, cause, time }
  | suppressed .. | refreshed .. => none

/-- The remap that a failure led to. -/
def Handling.remap? (handling : Handling) : Option Remap :=
  handling.outcome?.bind (·.remap? .automatic handling.now)

namespace FailoverOp

/-- The remap that an operation makes by hand, unless it is refused. -/
def manualRemap? (now : Nat) (failover : Failover) : FailoverOp → Option Remap
  | remapByHand source target? =>
      (failover.remapByHand source target? now).1.toOption.bind (·.remap? .manual now)
  | setSettings _ | handleFailure _ | recover _ | placeFlow .. | checkHealth .. => none

/-- The remaps that an operation completes, in order, as it reports them: for the failures that it
handles, or by hand. -/
def remaps (now : Nat) (failover : Failover) (op : FailoverOp) : List Remap :=
  (op.failureOutcomes now failover).filterMap (·.remap? .automatic now) ++
    (op.manualRemap? now failover).toList

end FailoverOp

namespace Failover

/-! ## Appending to a history -/

/-- A history after one more remap, with no more than the most recent ones kept. -/
def keepRecent (limit : Nat) (history : List Remap) (remap : Remap) : List Remap :=
  (history ++ [remap]).rtake limit

section Lists

variable {limit : Nat} {history log : List Remap} {remap : Remap}

theorem length_keepRecent (limit : Nat) (history : List Remap) (remap : Remap) :
    (keepRecent limit history remap).length = min limit (history.length + 1) := by
  unfold keepRecent List.rtake
  rw [List.length_drop, List.length_append, List.length_singleton]
  omega

/-- Nothing is lost by trimming first what is trimmed later anyway. -/
theorem keepRecent_rtake (limit : Nat) (log : List Remap) (remap : Remap) :
    keepRecent limit (log.rtake limit) remap = (log ++ [remap]).rtake limit := by
  unfold keepRecent List.rtake
  rw [← List.drop_append_of_le_length (Nat.sub_le _ _), List.drop_drop]
  congr 1
  simp only [List.length_drop, List.length_append, List.length_singleton]
  omega

theorem foldl_keepRecent_rtake (limit : Nat) (log remaps : List Remap) :
    remaps.foldl (keepRecent limit) (log.rtake limit) = (log ++ remaps).rtake limit := by
  induction remaps generalizing log with
  | nil => rw [List.append_nil, List.foldl_nil]
  | cons remap rest ih =>
      rw [List.foldl_cons, keepRecent_rtake, ih, List.append_assoc, List.singleton_append]

theorem keepRecent_suffix (recent : history <:+ log) (limit : Nat) (remap : Remap) :
    keepRecent limit history remap <:+ log ++ [remap] := by
  obtain ⟨earlier, rfl⟩ := recent
  rw [List.append_assoc]
  exact (List.drop_suffix _ _).trans (List.suffix_append _ _)

theorem foldl_keepRecent_suffix (recent : history <:+ log) (limit : Nat) (remaps : List Remap) :
    remaps.foldl (keepRecent limit) history <:+ log ++ remaps := by
  induction remaps generalizing history log with
  | nil => rwa [List.append_nil, List.foldl_nil]
  | cons remap rest ih =>
      have later := ih (keepRecent_suffix recent limit remap)
      rwa [List.append_assoc, List.singleton_append] at later

end Lists

/-! ## What an operation appends -/

variable {failover before middle after : Failover}

/-- What is reported are the remaps of the failures, each at its time, and the one by hand. -/
theorem remaps_eq (failover : Failover) (op : FailoverOp) (now : Nat) :
    op.remaps now failover =
      (op.handlings now failover).filterMap (·.remap?) ++
        (op.manualRemap? now failover).toList := by
  unfold FailoverOp.remaps
  rw [failureOutcomes_eq, List.filterMap_filterMap]
  congr 1
  apply List.filterMap_congr
  intro handling member
  unfold Handling.remap?
  rw [(of_mem_handlings member).1]

/-- The history goes on by some remaps, one after another, under the settings at the start. -/
def Extends (before after : Failover) (remaps : List Remap) : Prop :=
  after.history = remaps.foldl (keepRecent before.settings.historyLen.toNat) before.history

/-- A remap has been appended to the history, within the limit in force. -/
structure Appends (before after : Failover) (remap : Remap) : Prop where
  history : after.history = keepRecent before.settings.historyLen.toNat before.history remap
  length : after.history.length =
    min before.settings.historyLen.toNat (before.history.length + 1)

namespace Extends

theorem append {first second : List Remap} (earlier : Extends before middle first)
    (settings : middle.settings = before.settings) (later : Extends middle after second) :
    Extends before after (first ++ second) := by
  unfold Extends at earlier later ⊢
  rw [later, settings, earlier, List.foldl_append]

theorem appends {remap : Remap} (one : Extends before after [remap]) :
    Appends before after remap where
  history := one
  length := by
    rw [one]
    exact length_keepRecent _ _ _

/-- A failure appends the remap to which it leads. -/
theorem handleFailure (handling : Handling) :
    Extends handling.before handling.after ([handling].filterMap (·.remap?)) := by
  simp only [List.filterMap_cons, List.filterMap_nil, Handling.remap?, Handling.outcome?,
    Handling.after]
  -- Only the last way out is a remap.
  rcases handling.before.handleFailure_cases handling.queue handling.now with
    ⟨_, result⟩ | ⟨_, _, ⟨_, result⟩ | ⟨_, _, result⟩ | ⟨_, _, _, result⟩ |
      ⟨_, _, _, _, _, _, result⟩⟩ <;> rw [result] <;> rfl

/-- A remap by hand is appended unless it is refused. -/
theorem remapByHand (failover : Failover) (source : QueueId) (target? : Option QueueId)
    (now : Nat) :
    Extends failover (failover.remapByHand source target? now).2
      ((FailoverOp.remapByHand source target?).manualRemap? now failover).toList := by
  show Extends failover _
    ((failover.remapByHand source target? now).1.toOption.bind (·.remap? .manual now)).toList
  rcases failover.remapByHand_cases source target? now with
    ⟨_, _, result⟩ | ⟨_, _, result⟩ | ⟨_, _, _, _, _, result⟩ <;> rw [result] <;> rfl

theorem placeFlow (failover : Failover) (flow : FlowId) (target : QueueId) :
    Extends failover (failover.placeFlow flow target).2 [] := by
  rcases failover.placeFlow_cases flow target with ⟨_, result⟩ | result | ⟨_, _, result⟩ <;>
    rw [result] <;> rfl

theorem switchStatus (failover : Failover) (id : QueueId) (expected new : QueueStatus) :
    Extends failover (failover.switchStatus id expected new).2 [] := by
  rw [switchStatus_snd]
  rfl

/-- The look at one queue appends the remap of its failure. -/
theorem checkQueue (settings : HealthSettings) (now : Nat) (state : CheckReport × Failover)
    (view : QueueView) :
    Extends state.2 (Failover.checkQueue settings now state view).2
      ((handlingAt settings now state.2 view).filterMap (·.remap?)) := by
  rw [checkQueue_snd]
  unfold handlingAt
  cases settings.evaluate view.counters.rxErrors view.counters.txErrors with
  | breached => exact handleFailure { before := state.2, queue := view.queue, now }
  | degraded => exact switchStatus state.2 view.queue .active .degraded
  | healthy => exact switchStatus state.2 view.queue .degraded .active

/-- The look at some queues, one after another. -/
theorem foldl_checkQueue (settings : HealthSettings) (now : Nat) (state : CheckReport × Failover)
    (views : List QueueView) :
    Extends state.2 (views.foldl (Failover.checkQueue settings now) state).2
      ((handlingsOf settings now state views).filterMap (·.remap?)) := by
  induction views generalizing state with
  | nil => rfl
  | cons view rest ih =>
      rw [handlingsOf, List.filterMap_append]
      exact (checkQueue settings now state view).append
        (settings_checkQueue settings now state view) (ih _)

/-- An operation appends the remaps that it completes, in order. -/
theorem failoverOp (failover : Failover) (op : FailoverOp) (now : Nat) :
    Extends failover (op.apply now failover) (op.remaps now failover) := by
  rw [remaps_eq]
  cases op with
  | setSettings settings => rfl
  | handleFailure id =>
      have one := handleFailure { before := failover, queue := id, now }
      rwa [← List.append_nil (List.filterMap _ _)] at one
  | remapByHand source target? => exact remapByHand failover source target? now
  | recover time => rfl
  | placeFlow flow target => exact placeFlow failover flow target
  | checkHealth settings time =>
      unfold FailoverOp.apply FailoverOp.handlings checkHealth
      rw [show FailoverOp.manualRemap? now failover (.checkHealth settings time) = none from rfl,
        Option.toList_none, List.append_nil]
      cases failover.settings.enabled with
      | false => rfl
      | true =>
          -- The recovery at the end of the pass leaves the history alone.
          exact foldl_checkQueue settings now ({}, failover) failover.registry.views

end Extends

/-- A remap by hand that is not refused appends its remap. -/
theorem Appends.of_remapByHand {source : QueueId} {target? : Option QueueId} {now : Nat}
    {outcome : RemapOutcome}
    (taken : failover.remapByHand source target? now = (.ok outcome, after)) :
    ∃ remap, outcome.remap? .manual now = some remap ∧ Appends failover after remap := by
  rcases failover.remapByHand_cases source target? now with
    ⟨_, _, result⟩ | ⟨_, _, result⟩ | ⟨_, target, moved, _, _, result⟩
  · cases result.symm.trans taken
  · cases result.symm.trans taken
  · cases result.symm.trans taken
    exact ⟨_, rfl, Extends.appends rfl⟩

end Failover

end FlowSteer
