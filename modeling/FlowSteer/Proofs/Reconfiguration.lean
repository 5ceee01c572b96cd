import FlowSteer.Proofs.Plane.Runs

/-!
# New settings at runtime

A control plane copies its settings into its parts at bring-up, and new settings have to reach
every copy. `Plane.inForce` is what the parts run with, `Settings.inForce` what the parts of a new
plane run with.

1. `Plane.inForce_of_start`: a new plane runs with its settings.
2. `Plane.updateSettings_cases`: new settings are refused and nothing changes, or they reach every
   part but the workers.
3. `Plane.reconfigures_run`: after every run, settings with the layout of the bring-up are accepted
   and are in force, but for the budget of the workers. It is a setting like the others that are
   not part of the layout, and stays as it was at bring-up: `Plane.budget_not_in_force`.
-/

namespace FlowSteer

/-! ## What the parts run with -/

/-- Settings as the parts of a plane have them. -/
@[ext]
structure InForce where
  failover : FailoverSettings
  health : HealthSettings
  planner : Planner
  coalesce : CoalesceSettings
  /-- Period of each duty, in the order in which duties are done. -/
  periods : List (Duty × Nat)
  idleTimeout : Nat
  workerBudget : Nat
deriving DecidableEq

/-- The period of each timer. -/
def Timers.periods (timers : Timers) : List (Duty × Nat) :=
  timers.armed.map fun timer => (timer.duty, timer.period)

/-- What the parts of the plane run with. -/
def Plane.inForce (plane : Plane) : InForce where
  failover := plane.failover.settings
  health := plane.health
  planner := plane.planner
  coalesce := plane.coalescer.settings
  periods := plane.timers.periods
  idleTimeout := plane.settings.flows.idleTimeoutMs.toNat
  workerBudget := plane.workerBudget

/-- What the parts of a plane that is brought up with the settings run with. -/
def Settings.inForce (settings : Settings) : InForce where
  failover := settings.failover
  health := settings.health
  planner := Plane.newPlanner settings
  coalesce := settings.coalesce
  periods := Duty.order.map fun duty => (duty, max (settings.period duty) 1)
  idleTimeout := settings.flows.idleTimeoutMs.toNat
  workerBudget := settings.completionBudget.toNat

namespace Plane

variable {initial settings : Settings} {plane before after : Plane} {device : Device}
  {clock : Clock}

theorem periods_rescheduled (plane : Plane) (settings : Settings) :
    (plane.rescheduled settings).periods =
      plane.timers.duties.map fun duty => (duty, max (settings.period duty) 1) := by
  unfold rescheduled Timers.periods Timers.duties Timers.setPeriod Timers.modify
  simp only [List.map_map]
  apply List.map_congr_left
  rintro ⟨duty, period, deadline⟩ _
  cases duty <;> rfl

theorem duties_rescheduled (plane : Plane) (settings : Settings) :
    (plane.rescheduled settings).duties = plane.timers.duties := by
  have duties : ∀ timers : Timers, timers.duties = timers.periods.map Prod.fst := by
    intro timers
    rw [Timers.periods, List.map_map]
    rfl
  rw [duties, periods_rescheduled, List.map_map]
  exact List.map_id' _

/-- A new plane runs with its settings. -/
theorem inForce_of_start (started : start settings device clock = .ok plane) :
    plane.inForce = settings.inForce := by
  obtain ⟨registry, made⟩ := started_of_start started
  have periods : (newTimers settings clock.now).periods = settings.inForce.periods := rfl
  rw [made.assembled]
  exact InForce.ext rfl rfl rfl rfl periods rfl rfl

/-! ## The update -/

/-- New settings have reached every part but the workers. -/
structure Updates (new : Settings) (before after : Plane) : Prop where
  settings : after.settings = new
  failover : after.failover.settings = new.failover
  health : after.health = new.health
  planner : after.planner = before.planner.setSettings new.scheduling
  coalesce : after.coalescer.settings = new.coalesce
  timers : after.timers = before.rescheduled new
  workerBudget : after.workerBudget = before.workerBudget

theorem validateChange_eq_ok_iff {present new : Settings} :
    present.validateChange new = .ok () ↔
      new.validate = .ok () ∧ present.layout = new.layout := by
  rw [← Settings.sameLayout_iff]
  unfold Settings.validateChange
  cases new.validate with
  | error error => simp
  | ok _ => cases present.sameLayout new <;> simp

theorem updateSettings_of_refused {error : ControlError}
    (refused : plane.settings.validateChange settings = .error error) :
    plane.updateSettings settings = (.error error, plane) := by
  unfold updateSettings
  rw [refused]

/-- New settings are refused and nothing changes, or they reach every part but the workers. -/
theorem updateSettings_cases (plane : Plane) (settings : Settings) :
    (∃ error, plane.settings.validateChange settings = .error error ∧
      plane.updateSettings settings = (.error error, plane)) ∨
    (plane.settings.validateChange settings = .ok () ∧
      ∃ updated, plane.updateSettings settings = (.ok (), updated) ∧
        Updates settings plane updated) := by
  cases checked : plane.settings.validateChange settings with
  | error error => exact .inl ⟨error, rfl, updateSettings_of_refused checked⟩
  | ok _ =>
      have valid := Settings.validate_coalesce (validateChange_eq_ok_iff.1 checked).1
      have coalescing := Coalescer.setSettings_of_valid valid plane.coalescer
      unfold updateSettings
      rw [checked]
      refine .inr ⟨rfl, _, by rw [coalescing], ?_⟩
      split <;> exact ⟨rfl, rfl, rfl, rfl, rfl, rfl, rfl⟩

theorem BroughtUp.updateSettings (broughtUp : BroughtUp initial plane) (settings : Settings) :
    BroughtUp initial (plane.updateSettings settings).2 := by
  rcases plane.updateSettings_cases settings with
    ⟨_, _, result⟩ | ⟨checked, updated, result, updates⟩
  · rw [result]
    exact broughtUp
  · rw [result]
    constructor
    case layout =>
      rw [updates.settings, ← (validateChange_eq_ok_iff.1 checked).2, broughtUp.layout]
    case duties => rw [updates.timers, duties_rescheduled, broughtUp.duties]
    case topology =>
      rw [updates.planner]
      exact broughtUp.topology
    case numaAware =>
      rw [updates.planner]
      exact broughtUp.numaAware
    case workerBudget => rw [updates.workerBudget, broughtUp.workerBudget]

/-- Accepted settings are in force, but for the budget of the workers. -/
theorem inForce_of_updates (broughtUp : BroughtUp initial before)
    (layout : settings.layout = initial.layout) (updates : Updates settings before after) :
    after.inForce =
      { settings.inForce with workerBudget := initial.completionBudget.toNat } := by
  -- The planner keeps the processors of the bring-up, which are part of the layout.
  have topology : before.planner.topology = (newPlanner settings.layout).topology := by
    rw [layout]
    exact broughtUp.topology
  have numaAware : before.planner.numaAware = settings.layout.numaAware := by
    rw [layout]
    exact broughtUp.numaAware
  apply InForce.ext
  case failover => exact updates.failover
  case health => exact updates.health
  case planner =>
    show after.planner = newPlanner settings
    rw [updates.planner, Planner.setSettings, topology, numaAware]
    rfl
  case coalesce => exact updates.coalesce
  case periods =>
    show after.timers.periods = _
    rw [updates.timers, periods_rescheduled, broughtUp.duties]
    rfl
  case idleTimeout => exact congrArg (·.flows.idleTimeoutMs.toNat) updates.settings
  case workerBudget => exact updates.workerBudget.trans broughtUp.workerBudget

/-! ## Runs -/

theorem BroughtUp.step (broughtUp : BroughtUp initial plane) (operation : PlaneOp) :
    BroughtUp initial (plane.step operation) := by
  cases operation with
  | setScheduling settings => exact { broughtUp with }
  | tick time => exact broughtUp.tick time
  | updateSettings settings => exact broughtUp.updateSettings settings
  | shutdown => exact broughtUp.shutdown
  | _ => exact broughtUp.of_keeps ⟨rfl, rfl, rfl, rfl⟩

theorem BroughtUp.run (broughtUp : BroughtUp initial plane) (operations : List PlaneOp) :
    BroughtUp initial (plane.run operations) := by
  induction operations generalizing plane with
  | nil => exact broughtUp
  | cons operation rest ih => exact ih (broughtUp.step operation)

/-- New settings are in force as they would be on a new plane, but for the budget of the workers,
or they are refused. -/
structure Reconfigures (initial : Settings) (plane : Plane) : Prop where
  /-- Accepted settings are in force, but the workers keep the budget of the bring-up. -/
  inForce : ∀ {settings updated}, plane.updateSettings settings = (.ok (), updated) →
    updated.inForce = { settings.inForce with workerBudget := initial.completionBudget.toNat }
  /-- A new plane would run with the same, exactly when its workers would have this budget. -/
  asNew : ∀ {settings updated device clock other},
    plane.updateSettings settings = (.ok (), updated) → start settings device clock = .ok other →
    (updated.inForce = other.inForce ↔ settings.completionBudget = initial.completionBudget)
  /-- Settings are accepted when they are valid and have the layout of the bring-up. -/
  accepted : ∀ settings, (plane.updateSettings settings).1 = .ok () ↔
    settings.validate = .ok () ∧ settings.layout = initial.layout
  /-- Settings with another layout are refused for it, and nothing changes. -/
  refused : ∀ {settings}, settings.validate = .ok () → settings.layout ≠ initial.layout →
    plane.updateSettings settings = (.error SettingsProblem.layoutChanged.error, plane)
  invalid : ∀ {settings error}, settings.validate = .error error →
    plane.updateSettings settings = (.error error, plane)

theorem BroughtUp.reconfigures (broughtUp : BroughtUp initial plane) :
    Reconfigures initial plane := by
  have checks : ∀ settings, plane.settings.validateChange settings = .ok () ↔
      settings.validate = .ok () ∧ settings.layout = initial.layout := by
    intro settings
    rw [validateChange_eq_ok_iff, broughtUp.layout, eq_comm (a := initial.layout)]
  have inForce : ∀ {settings updated}, plane.updateSettings settings = (.ok (), updated) →
      updated.inForce =
        { settings.inForce with workerBudget := initial.completionBudget.toNat } := by
    intro settings updated taken
    rcases plane.updateSettings_cases settings with
      ⟨_, _, result⟩ | ⟨checked, reached, result, updates⟩
    · rw [result] at taken
      cases taken
    · rw [result] at taken
      cases taken
      exact inForce_of_updates broughtUp ((checks settings).1 checked).2 updates
  constructor
  case inForce => exact inForce
  case asNew =>
    intro settings updated device clock other taken started
    rw [inForce taken, inForce_of_start started]
    constructor
    · intro same
      have budgets := congrArg InForce.workerBudget same
      exact (UInt64.toNat_inj.1 budgets).symm
    · intro same
      rw [← same]
      rfl
  case accepted =>
    intro settings
    rw [← checks settings]
    rcases plane.updateSettings_cases settings with
      ⟨_, refused, result⟩ | ⟨checked, _, result, _⟩
    · rw [result, refused]
    · rw [result, checked]
  case refused =>
    intro settings valid other
    have differs : plane.settings.sameLayout settings = false := by
      rw [← Bool.not_eq_true, Settings.sameLayout_iff, broughtUp.layout]
      exact Ne.symm other
    apply updateSettings_of_refused
    unfold Settings.validateChange
    rw [valid]
    exact if_neg (ne_true_of_eq_false differs)
  case invalid =>
    intro settings error invalid
    apply updateSettings_of_refused
    unfold Settings.validateChange
    rw [invalid]

/-- After every run, settings are in force when they are accepted, but for the budget of the
workers. -/
theorem reconfigures_run (started : start initial device clock = .ok plane)
    (operations : List PlaneOp) : Reconfigures initial (plane.run operations) :=
  ((BroughtUp.of_start started).run operations).reconfigures

/-- A plane of one queue takes new periods and marks, hands its flows about and is shut down. -/
theorem reconfigures_run_of_one_queue :
    let initial : Settings := {
      queueCount := 1, maxQueues := 1, pool := { buffersPerNode := 2, bufferSize := 64 } }
    let operations : List PlaneOp := [.part (.registry (.record 0 7 60 .rx)),
      .updateSettings { initial with coalesce := { highWater := 9, lowWater := 3 } },
      .part (.advance 100), .tick 100, .shutdown]
    ∃ plane, start initial { ringCapacity := 2 } {} = .ok plane ∧
      Reconfigures initial (plane.run operations) ∧
      (plane.run operations).inForce =
        { initial.inForce with coalesce := { highWater := 9, lowWater := 3 } } := by
  intro initial operations
  have started : start initial { ringCapacity := 2 } {} = .ok _ :=
    start_of_room rfl rfl (by decide) rfl (by decide)
  exact ⟨_, started, reconfigures_run started operations, by decide⟩

/-- A budget that differs from the one of the bring-up is accepted, and the workers do not have it;
those of a new plane would. -/
theorem budget_not_in_force :
    let initial : Settings := {
      queueCount := 1, maxQueues := 1, pool := { buffersPerNode := 2, bufferSize := 64 } }
    let settings := { initial with completionBudget := 8 }
    ∃ plane updated other, start initial { ringCapacity := 2 } {} = .ok plane ∧
      plane.updateSettings settings = (.ok (), updated) ∧
      start settings { ringCapacity := 2 } {} = .ok other ∧
      updated.settings = settings ∧ updated.workerBudget = 64 ∧ other.workerBudget = 8 ∧
      updated.inForce ≠ other.inForce := by
  exact ⟨_, _, _, rfl, rfl, rfl, rfl, rfl, rfl, by decide⟩

end Plane

end FlowSteer
