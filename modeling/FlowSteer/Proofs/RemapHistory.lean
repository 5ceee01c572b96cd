import FlowSteer.Proofs.CircuitBreaker
import FlowSteer.Proofs.Failover.History

/-!
# The history over a run

Failover shows its recent remaps. The limit on their number can change on the way, and takes effect
with the next remap.

1. `extends_step`: an operation appends the remaps that it completes.
2. `suffix_run`: so the history is the end of the list of all remaps of a run (`System.remaps`).
3. `history_run`: under one limit it is as much of this list as the limit allows.
4. `remembers_run`: both, and what each failure and each request by hand does to the history.
-/

namespace FlowSteer

namespace System

/-! ## Remaps in a run -/

/-- Remaps that an operation completes, in order. -/
def remapsAt (system : System) : Operation → List Remap
  | .failover op => op.remaps system.clock.now system.failover
  | _ => []

/-- Remaps that are completed in a run, in order. -/
def remaps (system : System) : List Operation → List Remap
  | [] => []
  | operation :: rest => system.remapsAt operation ++ (system.step operation).remaps rest

/-- Limits on the history that come into force in a run. -/
def historyLimits (system : System) (operations : List Operation) : List Nat :=
  (system.failover.settings :: operations.filterMap (·.newSettings?)).map (·.historyLen.toNat)

theorem mem_remaps {system : System} {operations : List Operation} {remap : Remap}
    (member : remap ∈ system.remaps operations) :
    ∃ earlier operation later, operations = earlier ++ operation :: later ∧
      remap ∈ (system.run earlier).remapsAt operation := by
  induction operations generalizing system with
  | nil => cases member
  | cons operation rest ih =>
      rcases List.mem_append.1 member with here | inRest
      · exact ⟨[], operation, rest, rfl, here⟩
      · obtain ⟨earlier, other, later, rfl, completed⟩ := ih inRest
        exact ⟨operation :: earlier, other, later, rfl, completed⟩

/-! ## Steps -/

/-- Placing a flow for a rate is no remap. -/
theorem extends_placed {before after : Failover}
    (placed : after = before ∨ ∃ flow target, after = (before.placeFlow flow target).2) :
    Failover.Extends before after [] := by
  rcases placed with rfl | ⟨flow, target, rfl⟩
  · rfl
  · exact Failover.Extends.placeFlow before flow target

/-- An operation appends the remaps that it completes. -/
theorem extends_step (system : System) (operation : Operation) :
    Failover.Extends system.failover (system.step operation).failover
      (system.remapsAt operation) := by
  cases operation with
  | failover op => exact Failover.Extends.failoverOp system.failover op system.clock.now
  | applyRate request => exact extends_placed (system.limits.apply_cases system.failover request)
  | applyLine line => exact extends_placed (system.limits.applyLine_cases system.failover line)
  | _ => rfl

/-! ## Runs -/

/-- A history that is the end of a list goes on as the end of the list with all remaps of the
run. -/
theorem suffix_run {system : System} (log : List Remap)
    (recent : system.failover.history <:+ log) (operations : List Operation) :
    (system.run operations).failover.history <:+ log ++ system.remaps operations := by
  induction operations generalizing system log with
  | nil => rwa [remaps, List.append_nil]
  | cons operation rest ih =>
      rw [remaps, ← List.append_assoc, run_cons]
      apply ih
      rw [system.extends_step operation]
      exact Failover.foldl_keepRecent_suffix recent _ _

/-- Under one limit the history holds as much of the list as the limit allows. -/
theorem history_run {system : System} {limit : Nat} (log : List Remap)
    (full : system.failover.history = log.rtake limit) {operations : List Operation}
    (constant : ∀ other ∈ system.historyLimits operations, other = limit) :
    (system.run operations).failover.history = (log ++ system.remaps operations).rtake limit := by
  induction operations generalizing system log with
  | nil => rwa [remaps, List.append_nil]
  | cons operation rest ih =>
      rw [remaps, ← List.append_assoc, run_cons]
      have inForce : system.failover.settings.historyLen.toNat = limit :=
        constant _ List.mem_cons_self
      apply ih
      · rw [system.extends_step operation, inForce, full, Failover.foldl_keepRecent_rtake]
      · intro other member
        apply constant
        -- The settings after the step are those before or new ones of the run.
        unfold historyLimits at member ⊢
        rw [settings_step] at member
        rw [List.filterMap_cons]
        cases changed : operation.newSettings? with
        | none => rwa [changed, Option.getD_none] at member
        | some settings =>
            rw [changed, Option.getD_some] at member
            exact List.mem_cons_of_mem _ member

/-- The history is what is recent of all remaps that were completed in a run. -/
structure Remembers (start : System) (operations : List Operation) : Prop where
  recent : (start.run operations).failover.history <:+ start.remaps operations
  /-- Under one limit these are the last ones, as many as the limit allows. -/
  last : ∀ limit, (∀ other ∈ start.historyLimits operations, other = limit) →
    (start.run operations).failover.history = (start.remaps operations).rtake limit
  /-- Each of them was completed by an operation of the run. -/
  completed : ∀ remap ∈ (start.run operations).failover.history,
    ∃ earlier operation later, operations = earlier ++ operation :: later ∧
      remap ∈ (start.run earlier).remapsAt operation
  /-- A failure appends the remap to which it leads, also within a health pass. -/
  appended : ∀ handling ∈ start.handlings operations, ∀ remap, handling.remap? = some remap →
    Failover.Appends handling.before handling.after remap
  /-- A failure that is suppressed, refreshed or refused leaves the history alone. -/
  spared : ∀ handling ∈ start.handlings operations, handling.remap? = none →
    handling.after.history = handling.before.history
  byHand : ∀ {source target? now outcome after},
    (start.run operations).failover.remapByHand source target? now = (.ok outcome, after) →
    ∃ remap, outcome.remap? .manual now = some remap ∧
      Failover.Appends (start.run operations).failover after remap
  /-- An operation that completes no remap changes nothing, whatever limit it puts in force. -/
  quiet : ∀ operation, (start.run operations).remapsAt operation = [] →
    ((start.run operations).step operation).failover.history =
      (start.run operations).failover.history

/-- Every run has its recent remaps in the history. -/
theorem remembers_run (blueprint : Blueprint) (operations : List Operation) :
    (fresh blueprint).Remembers operations := by
  have recent : ((fresh blueprint).run operations).failover.history <:+
      (fresh blueprint).remaps operations := suffix_run [] List.suffix_rfl operations
  constructor
  case recent => exact recent
  case last =>
    intro limit constant
    exact history_run [] (List.rtake_nil limit).symm constant
  case completed =>
    intro remap member
    exact mem_remaps (recent.subset member)
  case appended =>
    intro handling _ remap led
    apply Failover.Extends.appends
    have one := Failover.Extends.handleFailure handling
    rwa [List.filterMap_cons, led] at one
  case spared =>
    intro handling _ led
    have none := Failover.Extends.handleFailure handling
    rwa [List.filterMap_cons, led] at none
  case byHand =>
    intro source target? now outcome after taken
    exact Failover.Appends.of_remapByHand taken
  case quiet =>
    intro operation none
    have same := ((fresh blueprint).run operations).extends_step operation
    rwa [none] at same

/-- With a limit of one the second remap takes the place of the first; a higher limit brings nothing
back, and takes in a remap by hand. The suppressed failure and the refused request do not show. -/
example :
    let start := fresh {
      capacity := 4, maxFlows := 8, buffersPerNode := 4, ringCapacity := 3
      failover := { maxFailoverCount := 2, historyLen := 1 } }
    let operations : List Operation := [.registry (.register 0 0), .registry (.register 1 0),
      .registry (.register 2 0), .failover (.handleFailure 0), .advance 5,
      .registry (.countError 1 .rx), .failover (.checkHealth { failureThreshold := 0 } 0),
      .failover (.setSettings { maxFailoverCount := 2, historyLen := 8 }),
      .failover (.handleFailure 2), .failover (.remapByHand 2 (some 2)),
      .failover (.remapByHand 2 none)]
    (start.run operations).failover.history =
        [⟨1, 0, 0, .automatic, 5⟩, ⟨2, 0, 0, .manual, 5⟩] ∧
      start.remaps operations = ⟨0, 1, 0, .automatic, 0⟩ ::
        (start.run operations).failover.history := by
  decide

end System

end FlowSteer
