import FlowSteer.Proofs.CircuitBreaker
import FlowSteer.Proofs.Failover.Charges
import FlowSteer.Proofs.Failover.Outages

/-!
# Outages on record

An outage is open exactly when its queue is failed or recovering, has had a failure, and dates from
the past, so that a late recovery leaves nothing of any outage (`System.recoverable_run`). Statuses
have to be left to failover for this. And two words can run over: the count of failures, so that it
is only known up to `2 ^ 32` charges of one queue, and the time of the clock, which then goes back
(`System.unmatched_beyond_bounds`).

1. `System.becomes_step`: an operation leaves an outage as it is, closes it, or charges it.
2. `System.counted_run`, `System.dated_run`: what follows for every open outage after a run.
-/

namespace FlowSteer

namespace System

variable {system : System} {operation : Operation} {operations : List Operation} {id : QueueId}

/-! ## Charges in a run -/

/-- How often an operation charges a queue, at most: with failures, or with a remap by hand. -/
def chargesAt (system : System) (id : QueueId) : Operation → Nat
  | .failover (.remapByHand source _) => if source = id then 1 else 0
  | operation => (system.handlingsAt operation).countP (·.queue = id)

/-- How often a run charges a queue, at most. -/
def charges (system : System) (id : QueueId) : List Operation → Nat
  | [] => 0
  | operation :: rest => system.chargesAt id operation + (system.step operation).charges id rest

theorem becomes_step (system : System) (operation : Operation) (id : QueueId) :
    Outage.Becomes system.clock.now (system.failover.outages.get? id)
      (system.chargesAt id operation) ((system.step operation).failover.outages.get? id) := by
  cases operation with
  | failover op =>
      cases op with
      | setSettings settings => exact .same
      | handleFailure other =>
          exact .handling { before := system.failover, queue := other, now := _ } id
      | remapByHand source target? => exact .remapByHand system.failover source target? _ id
      | recover time => exact .recover system.failover time _ id
      | placeFlow flow target => exact .placeFlow system.failover flow target _ id
      | checkHealth settings time => exact .checkHealth system.failover settings _ time id
  | applyRate request => exact .placed (system.limits.apply_cases system.failover request) _ id
  | applyLine line => exact .placed (system.limits.applyLine_cases system.failover line) _ id
  | _ => exact .same

/-- A run charges an outage no more often than it charges the queue. -/
theorem counted_run {limit : Nat} (start : Outage.Counted limit (system.failover.outages.get? id)) :
    Outage.Counted (limit + system.charges id operations)
      ((system.run operations).failover.outages.get? id) := by
  induction operations generalizing system limit with
  | nil => exact start
  | cons operation rest ih =>
      rw [charges, ← Nat.add_assoc]
      exact ih ((system.becomes_step operation id).counted start)

/-- While the clock does not go back, outages date from the past. -/
theorem dated_run (forward : system.Throughout Forward operations)
    (start : Outage.Dated system.clock.now (system.failover.outages.get? id)) :
    Outage.Dated (system.run operations).clock.now
      ((system.run operations).failover.outages.get? id) := by
  induction operations generalizing system with
  | nil => exact start
  | cons operation rest ih =>
      have dated := (system.becomes_step operation id).dated start (Nat.le_refl _)
      exact ih forward.2 (dated.mono forward.1)

/-! ## Recovery after a run -/

/-- Outages and statuses agree after a run, and a late recovery leaves nothing of any outage. -/
structure Recoverable (start : System) (operations : List Operation) : Prop where
  /-- An outage is open exactly for the queues that are failed or recovering. -/
  onRecord : ∀ id, ((start.run operations).failover.outages.get? id).isSome ↔
    ∃ queue, (start.run operations).registry.queues.get? id = some queue ∧
      (queue.status = .failed ∨ queue.status = .recovering)
  /-- An open outage has a failure, unless so many charges have been counted that the word for it
  has run over. -/
  counted : ∀ id outage, (start.run operations).failover.outages.get? id = some outage →
    start.charges id operations < wordSize32 → 1 ≤ outage.failures
  /-- Unless the clock has gone back, an outage opened no later than its latest failure, which lies
  in the past. -/
  dated : start.Throughout Forward operations →
    ∀ id outage, (start.run operations).failover.outages.get? id = some outage →
      outage.since ≤ outage.lastFailure ∧ outage.lastFailure ≤ (start.run operations).clock.now
  /-- A recovery after the window of every outage leaves no outage open, and no queue failed or
  recovering. -/
  late : ∀ time, (∀ id outage, (start.run operations).failover.outages.get? id = some outage →
      outage.lastFailure + (start.run operations).failover.settings.recoveryWindowMs.toNat <
        time) →
    ((start.run operations).failover.recover time).2.outages = .empty ∧
      ∀ id queue,
        ((start.run operations).failover.recover time).2.registry.queues.get? id = some queue →
        queue.status ≠ .failed ∧ queue.status ≠ .recovering

/-- Every run in which statuses are left to failover leads to a state that recovers. -/
theorem recoverable_run (blueprint : Blueprint) (operations : List Operation)
    (indirect : ∀ operation ∈ operations, operation.setsStatus = false) :
    (fresh blueprint).Recoverable operations := by
  have agree := onRecord_run blueprint indirect
  constructor
  case onRecord =>
    intro id
    rw [agree id]
    apply exists_congr
    intro queue
    rw [QueueStatus.isAiling_iff]
    exact Iff.rfl
  case counted =>
    intro id outage isOpen few
    have none : Outage.Counted 0 ((fresh blueprint).failover.outages.get? id) := nofun
    have counted : Outage.Counted (0 + (fresh blueprint).charges id operations)
      (((fresh blueprint).run operations).failover.outages.get? id) := counted_run none
    obtain ⟨count, positive, within, failures⟩ := counted outage isOpen
    rw [failures, Nat.mod_eq_of_lt (by omega)]
    exact positive
  case dated =>
    intro forward id outage isOpen
    have none : Outage.Dated (fresh blueprint).clock.now
        ((fresh blueprint).failover.outages.get? id) := nofun
    exact dated_run forward none outage isOpen
  case late => exact fun time passed => agree.recover_all passed

/-- A run with an automatic remap, a failure at the cap and a remap by hand. -/
theorem recoverable_run_of_three_outages :
    let blueprint : Blueprint := {
      capacity := 4, maxFlows := 8, buffersPerNode := 4, ringCapacity := 3
      failover := { maxFailoverCount := 1 } }
    let operations : List Operation := [.registry (.register 0 0), .registry (.register 1 0),
      .registry (.register 2 0), .failover (.handleFailure 0), .advance 10,
      .failover (.handleFailure 1), .advance 10, .failover (.remapByHand 2 none)]
    let system := (fresh blueprint).run operations
    system.failover.outages.ids = [0, 1, 2] ∧ (fresh blueprint).Recoverable operations ∧
      (system.failover.recover 5021).2.outages = .empty := by
  intro blueprint operations system
  have recoverable : (fresh blueprint).Recoverable operations :=
    recoverable_run blueprint operations (by decide)
  have forward : (fresh blueprint).Throughout Forward operations := by decide
  have clock : ((fresh blueprint).run operations).clock.now = 20 := by decide
  have window :
      ((fresh blueprint).run operations).failover.settings.recoveryWindowMs.toNat = 5000 := by
    decide
  have dated := recoverable.dated forward
  have late := recoverable.late 5021
  rw [clock] at dated
  rw [window] at late
  refine ⟨by decide, recoverable, (late ?_).1⟩
  intro id outage isOpen
  have past := (dated id outage isOpen).2
  omega

/-! ## Words that run over -/

/-- Failures of a queue, one after another. -/
def failing (id : QueueId) (count : Nat) : List Operation :=
  .replicate count (.failover (.handleFailure id))

/-- They open an outage, and are counted as a word. -/
theorem failures_run (present : ∃ queue, system.registry.queues.get? id = some queue)
    (unopened : system.failover.outages.get? id = none) (count : Nat) :
    (∃ queue, (system.run (failing id count)).registry.queues.get? id = some queue) ∧
      (0 < count → ((system.run (failing id count)).failover.outages.get? id).isSome) ∧
      ((system.run (failing id count)).failover.outages.get? id).elim 0 (·.failures) =
        count % wordSize32 := by
  induction count with
  | zero =>
      refine ⟨present, fun positive => absurd positive (Nat.lt_irrefl 0), ?_⟩
      show (system.failover.outages.get? id).elim 0 (·.failures) = 0
      rw [unopened, Option.elim_none]
  | succ count ih =>
      obtain ⟨⟨queue, found⟩, -, counted⟩ := ih
      have next : system.run (failing id (count + 1)) =
          (system.run (failing id count)).step (.failover (.handleFailure id)) := by
        unfold failing
        rw [List.replicate_succ', run_concat]
      have outages : ((system.run (failing id count)).step
          (.failover (.handleFailure id))).failover.outages = IdMap.insert _ id _ :=
        Failover.outages_handleFailure found (system.run (failing id count)).clock.now
      rw [next, outages, IdMap.get?_insert_self]
      refine ⟨(leads_step _ _).stays ⟨queue, found⟩, fun _ => rfl, ?_⟩
      rw [Option.elim_some, Failover.failures_afterFailure, counted, Nat.mod_add_mod]

/-- Without these bounds: an update of its status takes a queue into service whose outage is open; an
outage is dated after the time of a clock that has run over; and after `2 ^ 32` failures of a queue
in a row its open outage has none. -/
theorem unmatched_beyond_bounds :
    let blueprint : Blueprint := {
      capacity := 1, maxFlows := 8, buffersPerNode := 4, ringCapacity := 3 }
    let updated : List Operation := [.registry (.register 0 0), .failover (.handleFailure 0),
      .registry (.updateStatus 0 fun _ => some .active)]
    let early : List Operation := [.registry (.register 0 0), .advance 5,
      .failover (.handleFailure 0), .advance wordMax]
    let many : List Operation := .registry (.register 0 0) :: failing 0 wordSize32
    ((fresh blueprint).run updated).failover.outages.contains 0 = true ∧
      ((fresh blueprint).run updated).registry.HasStatus 0 .active ∧
      (∀ operation ∈ early ++ many, operation.setsStatus = false) ∧
      ((fresh blueprint).run early).clock.now = 4 ∧
      ((fresh blueprint).run early).failover.outages.get? 0 =
        some { failures := 1, lastFailure := 5, since := 5 } ∧
      (((fresh blueprint).run many).failover.outages.get? 0).map (·.failures) = some 0 := by
  intro blueprint updated early many
  refine ⟨by decide, by decide, ?_, by decide, by decide, ?_⟩
  · intro operation member
    rcases List.mem_append.1 member with first | second
    · exact (by decide : ∀ operation ∈ early, operation.setsStatus = false) operation first
    · rcases List.mem_cons.1 second with rfl | repeated
      · rfl
      · rw [List.eq_of_mem_replicate repeated]
        rfl
  · have present : ∃ queue,
        ((fresh blueprint).step (.registry (.register 0 0))).registry.queues.get? 0 =
          some queue := ⟨_, rfl⟩
    obtain ⟨-, opened, counted⟩ := failures_run present rfl wordSize32
    obtain ⟨outage, isOpen⟩ := Option.isSome_iff_exists.1 (opened (by decide))
    rw [isOpen, Option.elim_some, Nat.mod_self] at counted
    have split : (fresh blueprint).run many =
        ((fresh blueprint).step (.registry (.register 0 0))).run (failing 0 wordSize32) :=
      run_cons (fresh blueprint) (.registry (.register 0 0)) (failing 0 wordSize32)
    rw [split, isOpen, Option.map_some, counted]

end System

end FlowSteer
