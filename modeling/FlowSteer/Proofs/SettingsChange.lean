import FlowSteer.Proofs.DeviceHints

/-!
# New settings, all or nothing

An update writes new settings into one part after the other, and the coalescer could refuse them
when some parts have them already. It never does: settings that pass the first check pass its own.

1. `Timers.timer?_rescheduled`: every duty has its new period, and none is put off.
2. `adopts_run`: after every run, new settings are refused and nothing changes, or they are adopted:
   interval, timers and device follow them.
3. The device hears of another interval only. A queue that it has another hint for, since it was
   registered later or programmed past the plane, keeps that hint when the interval stays:
   `hints_left_by_update`.
-/

namespace FlowSteer

/-! ## Deadlines -/

/-- The timer of each duty has the period that new settings give to the duty. -/
theorem Timers.timer?_rescheduled (plane : Plane) (settings : Settings) (duty : Duty) :
    (plane.rescheduled settings).timer? duty =
      (plane.timers.timer? duty).map (·.setPeriod (settings.period duty) plane.clock.now) := by
  unfold Plane.rescheduled
  simp only [Timers.timer?_setPeriod]
  cases found : plane.timers.timer? duty with
  | none => rfl
  | some timer =>
      have same := Timers.duty_of_timer? found
      obtain ⟨held, _, _⟩ := timer
      obtain rfl : held = duty := same
      cases held <;> rfl

/-! ## Updates -/

namespace Plane

variable {initial : Settings} {plane : Plane}

/-- New settings are refused and change nothing, or are adopted by interval, timers and device. -/
structure Adopts (plane : Plane) : Prop where
  /-- Settings are refused when they are wrong or have another layout. -/
  refused : ∀ settings, (∃ error, (plane.updateSettings settings).1 = .error error) ↔
    (∃ error, settings.validate = .error error) ∨ settings.layout ≠ plane.settings.layout
  unchanged : ∀ {settings error updated},
    plane.updateSettings settings = (.error error, updated) → updated = plane
  interval : ∀ {settings updated}, plane.updateSettings settings = (.ok (), updated) →
    updated.coalescer.interval = settings.coalesce.bound plane.coalescer.interval
  /-- Another interval is programmed for every queue. -/
  pushed : ∀ {settings updated}, plane.updateSettings settings = (.ok (), updated) →
    updated.coalescer.interval ≠ plane.coalescer.interval → ∀ id ∈ updated.registry.queueIds,
      updated.datapath.device.coalescing.get? id = some updated.coalescer.interval
  /-- No timer is put off, and each fires within its new period. -/
  deadlines : ∀ {settings updated}, plane.updateSettings settings = (.ok (), updated) →
    ∀ duty, ∃ before after, plane.timers.timer? duty = some before ∧
      updated.timers.timer? duty = some after ∧ after.deadline ≤ before.deadline ∧
      after.deadline ≤ plane.clock.now + settings.period duty

theorem refused_iff (plane : Plane) (settings : Settings) :
    (∃ error, (plane.updateSettings settings).1 = .error error) ↔
      (∃ error, settings.validate = .error error) ∨ settings.layout ≠ plane.settings.layout := by
  have accepted : plane.settings.validateChange settings = .ok () ↔
      settings.validate = .ok () ∧ settings.layout = plane.settings.layout := by
    rw [validateChange_eq_ok_iff, eq_comm (a := plane.settings.layout)]
  rcases plane.updateSettings_cases settings with
    ⟨error, refused, result⟩ | ⟨checked, updated, result, _⟩
  · rw [result]
    refine ⟨fun _ => ?_, fun _ => ⟨error, rfl⟩⟩
    cases valid : settings.validate with
    | error other => exact .inl ⟨other, rfl⟩
    | ok _ =>
        refine .inr fun same => ?_
        rw [accepted.2 ⟨valid, same⟩] at refused
        cases refused
  · rw [result]
    obtain ⟨valid, same⟩ := accepted.1 checked
    constructor
    · rintro ⟨_, failed⟩
      cases failed
    · rintro (⟨_, invalid⟩ | other)
      · rw [valid] at invalid
        cases invalid
      · exact absurd same other

theorem BroughtUp.adopts (broughtUp : BroughtUp initial plane) : Adopts plane := by
  constructor
  case refused => exact plane.refused_iff
  case unchanged =>
    intro settings error updated failed
    rcases plane.updateSettings_cases settings with ⟨_, _, result⟩ | ⟨_, _, result, _⟩
    · rw [result] at failed
      cases failed
      rfl
    · rw [result] at failed
      cases failed
  case interval =>
    intro settings updated taken
    rw [(retunes_updateSettings taken).2]
  case pushed =>
    intro settings updated taken moved id present
    have retunes := (retunes_updateSettings taken).1
    rw [retunes.registry] at present
    rcases retunes.pushed with device | ⟨stayed, -⟩
    · rw [device, coalescing_pushInterval, if_pos present]
    · exact absurd stayed moved
  case deadlines =>
    intro settings updated taken duty
    rcases plane.updateSettings_cases settings with
      ⟨_, _, result⟩ | ⟨checked, reached, result, updates⟩
    · rw [result] at taken
      cases taken
    · rw [result] at taken
      cases taken
      have positive := (Settings.fits_of_valid (validateChange_eq_ok_iff.1 checked).1).periods duty
      have listed : duty ∈ plane.timers.duties := by
        rw [broughtUp.duties]
        cases duty <;> decide
      obtain ⟨timer, found⟩ := Timers.timer?_of_mem_duties listed
      refine ⟨timer, timer.setPeriod (settings.period duty) plane.clock.now, found, ?_,
        timer.deadline_setPeriod_le _ _, timer.deadline_setPeriod_le_add positive _⟩
      rw [updates.timers, Timers.timer?_rescheduled, found]
      rfl

/-- After every run, new settings are adopted or refused. Where the device was programmed through
the plane alone, it has the adopted interval for the queues of the bring-up. -/
theorem adopts_run {device : Device} {clock : Clock}
    (started : start initial device clock = .ok plane) (operations : List PlaneOp) :
    Adopts (plane.run operations) ∧
      ((∀ op ∈ operations, op.setsHints = false) → ∀ {settings updated},
        (plane.run operations).updateSettings settings = (.ok (), updated) →
          ∀ id ∈ plane.registry.queueIds,
            updated.datapath.device.coalescing.get? id = some updated.coalescer.interval) := by
  refine ⟨((BroughtUp.of_start started).run operations).adopts, ?_⟩
  intro silent settings updated taken id present
  have tuned := (tuned_run started silent).of_retunes (retunes_updateSettings taken).1
  exact tuned.interval present

/-- Another interval in tighter bounds and a shorter period, and then settings that are refused. -/
theorem adopts_run_of_tighter_bounds :
    let initial : Settings := {
      queueCount := 2, maxQueues := 2, pool := { buffersPerNode := 2, bufferSize := 64 } }
    let operations : List PlaneOp := [.part (.advance 70), .setInterval 9,
      .updateSettings { initial with coalesce := { minUsecs := 20, tickIntervalMs := 10 } },
      .updateSettings { initial with queueCount := 1 }]
    ∃ plane, start initial { ringCapacity := 2 } {} = .ok plane ∧
      Adopts (plane.run operations) ∧
      (plane.run operations).datapath.device.coalescing.toList = [(0, 20), (1, 20)] ∧
      (plane.run operations).timers.timer? .coalesce =
        some { duty := .coalesce, period := 10, deadline := 80 } := by
  intro initial operations
  have started : start initial { ringCapacity := 2 } {} = .ok _ :=
    start_of_room rfl rfl (by decide) rfl (by decide)
  exact ⟨_, started, (adopts_run started operations).1, by decide, by decide⟩

/-- Settings are adopted, and the interval stays. A queue that was registered later has no hint, and
a queue that was programmed past the plane has another one. -/
theorem hints_left_by_update :
    let initial : Settings := {
      queueCount := 1, maxQueues := 2, pool := { buffersPerNode := 2, bufferSize := 64 } }
    ∃ plane updated, start initial { ringCapacity := 2 } {} = .ok plane ∧
      (plane.run [.part (.registry (.register 1 0)),
        .part (.device (.setInterval 0 5))]).updateSettings initial = (.ok (), updated) ∧
      updated.registry.queueIds = [0, 1] ∧ updated.coalescer.interval = 64 ∧
      updated.datapath.device.coalescing.get? 0 = some 5 ∧
      updated.datapath.device.coalescing.get? 1 = none := by
  intro initial
  have started : start initial { ringCapacity := 2 } {} = .ok _ :=
    start_of_room rfl rfl (by decide) rfl (by decide)
  exact ⟨_, _, started, rfl, by decide, by decide, by decide, by decide⟩

end Plane

end FlowSteer
