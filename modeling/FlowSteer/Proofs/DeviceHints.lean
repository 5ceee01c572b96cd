import FlowSteer.Proofs.BringUp
import FlowSteer.Proofs.Reconfiguration

/-!
# The device knows what the plane has settled on

A control plane settles on a coalescing interval and on a processor for each queue, and the device
has to hear of every change. The interval changes on a tick, by hand and with new settings; it is
pushed to all queues, but only when it is another one. Bindings change on a tick.

1. `Tells`: the ways in which hints and bindings change. All operations but those past the plane
   are chains of these: `tells_step`.
2. `Tuned`, `Placed`: the interval is in bounds, processors exist, and both are the hints of the
   device. A push that is left out for an interval that stays leaves no hint behind.
3. `inStep_run`: after every run that programs the device through the plane alone, the device is in
   step for the queues of the bring-up. A queue that is registered later is not bound and has no
   hint until the next change: `late_queue_out_of_step`.
-/

namespace FlowSteer

/-! ## Operations past the plane -/

/-- Does the operation bind queues or program the device, past the plane. -/
def Operation.setsHints : Operation → Bool
  | registry op => op.binds
  | device op => op.setsHints
  | _ => false

/-- Does the operation bind queues, program the device or set the interval, past the plane. -/
def PlaneOp.setsHints : PlaneOp → Bool
  | part op => op.setsHints
  | setCoalescing _ | adaptCoalescer _ => true
  | _ => false

namespace System

variable {system : System}

theorem sameBindings_step {op : Operation} (silent : op.setsHints = false) :
    system.registry.SameBindings (system.step op).registry := by
  cases op with
  | registry op => exact op.sameBindings system.clock.now system.registry silent
  | link op => exact (op.leads system.link).sameBindings RegistryOp.binds_of_byLink
  | _ => exact (system.leads_throughFailover rfl).sameBindings RegistryOp.binds_of_byFailover

theorem hints_step {op : Operation} (silent : op.setsHints = false) :
    (system.step op).datapath.hints = system.datapath.hints := by
  cases op with
  | link op => exact op.hints_apply system.link system.clock.now
  | device op => exact op.hints_apply system.datapath.device silent
  | _ => rfl

end System

namespace Link

/-- Hints and bindings are the same. -/
structure Quiet (before after : Link) : Prop where
  hints : after.hints = before.hints
  bindings : before.registry.SameBindings after.registry

theorem quiet_drain (link : Link) (id : QueueId) (budget : Option Nat) (now : Nat) :
    link.Quiet (link.drain id budget now).2 := by
  have leads : Registry.Leads _ now link.registry (link.drain id budget now).2.registry :=
    link.leads_drain id budget
  exact ⟨link.hints_drain id budget, leads.sameBindings RegistryOp.binds_of_byLink⟩

theorem quiet_work (link : Link) (id : QueueId) (budget now : Nat) :
    link.Quiet (link.work id budget now) := by
  have leads : Registry.Leads _ now link.registry (link.work id budget now).registry :=
    link.leads_work id budget
  exact ⟨link.hints_work id budget, leads.sameBindings RegistryOp.binds_of_byLink⟩

/-- What keeps hints and bindings for one queue keeps them for all queues. -/
theorem quiet_foldl {State : Type} (link : State → Link) {step : State → QueueId → State}
    (quiet : ∀ state id, (link state).Quiet (link (step state id))) (ids : List QueueId)
    (state : State) : (link state).Quiet (link (ids.foldl step state)) := by
  induction ids generalizing state with
  | nil => exact ⟨rfl, .refl _⟩
  | cons id rest ih =>
      have first := quiet state id
      have further := ih (step state id)
      exact ⟨further.hints.trans first.hints, first.bindings.trans further.bindings⟩

end Link

/-! ## What an operation tells the device -/

namespace Plane

variable {initial : Settings} {first plane before middle after : Plane}

/-- Settings, interval, hints and bindings are the same. -/
structure KeepsHints (before after : Plane) : Prop where
  settings : after.settings = before.settings
  coalescer : after.coalescer = before.coalescer
  hints : after.datapath.hints = before.datapath.hints
  bindings : before.registry.SameBindings after.registry

namespace KeepsHints

theorem affinity (same : KeepsHints before after) :
    after.datapath.device.affinity = before.datapath.device.affinity :=
  congrArg Prod.fst same.hints

theorem coalescing (same : KeepsHints before after) :
    after.datapath.device.coalescing = before.datapath.device.coalescing :=
  congrArg Prod.snd same.hints

end KeepsHints

/-- The interval is another one, perhaps in other bounds, and the device hears of it. -/
structure Retunes (before after : Plane) : Prop where
  registry : after.registry = before.registry
  processors : after.settings.processorCount = before.settings.processorCount
  settings : before.coalescer.settings = before.settings.coalesce →
    after.coalescer.settings = after.settings.coalesce
  bounded : before.coalescer.Bounded → after.coalescer.Bounded
  /-- The interval was pushed, or it is the one that the device has. -/
  pushed : after.datapath.device = pushInterval before.datapath.device
      before.registry.queueIds after.coalescer.interval ∨
    after.coalescer.interval = before.coalescer.interval ∧
      after.datapath.device = before.datapath.device

theorem Retunes.affinity (same : Retunes before after) :
    after.datapath.device.affinity = before.datapath.device.affinity := by
  rcases same.pushed with device | ⟨-, device⟩
  · rw [device, affinity_pushInterval]
  · rw [device]

/-- The ways in which hints and bindings change, one after another. -/
inductive Tells (initial : Settings) : Plane → Plane → Prop
  | keeps {before after : Plane} (same : KeepsHints before after) : Tells initial before after
  | retunes {before after : Plane} (same : Retunes before after) : Tells initial before after
  | rebinds {plane : Plane} (broughtUp : BroughtUp initial plane) :
      Tells initial plane plane.rebalance.2
  | trans {before middle after : Plane} (earlier : Tells initial before middle)
      (later : Tells initial middle after) : Tells initial before after

theorem Tells.refl (plane : Plane) : Tells initial plane plane :=
  .keeps ⟨rfl, rfl, rfl, .refl _⟩

/-! ## The interval -/

/-- The interval is in the bounds of the settings, and the device has it for the queues of the
bring-up. `first` is the plane as it was brought up. -/
structure Tuned (first plane : Plane) : Prop where
  settings : plane.coalescer.settings = plane.settings.coalesce
  bounded : plane.coalescer.Bounded
  interval : ∀ {id}, id ∈ first.registry.queueIds →
    plane.datapath.device.coalescing.get? id = some plane.coalescer.interval
  /-- The device has the interval for any other queue, or what it had at bring-up. -/
  late : ∀ id, plane.datapath.device.coalescing.get? id =
      first.datapath.device.coalescing.get? id ∨
    id ∈ plane.registry.queueIds ∧
      plane.datapath.device.coalescing.get? id = some plane.coalescer.interval
  present : ∀ {id}, id ∈ first.registry.queueIds → id ∈ plane.registry.queueIds

namespace Tuned

theorem of_keeps (tuned : Tuned first before) (same : KeepsHints before after) :
    Tuned first after := by
  constructor
  case settings => rw [same.coalescer, same.settings, tuned.settings]
  case bounded => exact same.coalescer ▸ tuned.bounded
  case interval =>
    intro id present
    rw [same.coalescing, same.coalescer, tuned.interval present]
  case late =>
    intro id
    rw [same.coalescing, same.coalescer]
    exact (tuned.late id).imp_right fun told => ⟨same.bindings.present told.1, told.2⟩
  case present => exact fun present => same.bindings.present (tuned.present present)

theorem of_retunes (tuned : Tuned first before) (same : Retunes before after) :
    Tuned first after := by
  constructor
  case settings => exact same.settings tuned.settings
  case bounded => exact same.bounded tuned.bounded
  case interval =>
    intro id present
    rcases same.pushed with device | ⟨kept, device⟩
    · rw [device, coalescing_pushInterval, if_pos (tuned.present present)]
    · rw [device, kept, tuned.interval present]
  case late =>
    intro id
    rw [same.registry]
    rcases same.pushed with device | ⟨kept, device⟩
    · rw [device, coalescing_pushInterval]
      by_cases present : id ∈ before.registry.queueIds
      · exact .inr ⟨present, if_pos present⟩
      · rw [if_neg present]
        exact .inl ((tuned.late id).resolve_right fun told => present told.1)
    · rw [device, kept]
      exact tuned.late id
  case present =>
    rw [same.registry]
    exact tuned.present

theorem rebalance (tuned : Tuned first plane) : Tuned first plane.rebalance.2 := by
  have coalescing : plane.rebalance.2.datapath.device.coalescing =
      plane.datapath.device.coalescing :=
    coalescing_pushAffinity _ _
  have queueIds : plane.rebalance.2.registry.queueIds = plane.registry.queueIds :=
    Registry.queueIds_bind _ _
  constructor
  case settings => exact tuned.settings
  case bounded => exact tuned.bounded
  case interval =>
    rw [coalescing]
    exact tuned.interval
  case late =>
    rw [coalescing, queueIds]
    exact tuned.late
  case present =>
    rw [queueIds]
    exact tuned.present

theorem of_tells (tuned : Tuned first before) (tells : Tells initial before after) :
    Tuned first after := by
  induction tells with
  | keeps same => exact tuned.of_keeps same
  | retunes same => exact tuned.of_retunes same
  | rebinds => exact tuned.rebalance
  | trans _ _ earlier later => exact later (earlier tuned)

end Tuned

/-! ## The processors -/

/-- Queues are bound to processors that exist, and the device has these processors. `first` is the
plane as it was brought up. -/
structure Placed (first plane : Plane) : Prop where
  bound : ∀ {id}, id ∈ first.registry.queueIds → (plane.registry.cpu? id).isSome
  told : plane.registry.ToldBindings (fun _ cpu => cpu < plane.settings.processorCount.toNat)
    plane.datapath.device.affinity

namespace Placed

theorem of_keeps (placed : Placed first before) (same : KeepsHints before after) :
    Placed first after := by
  constructor
  case bound =>
    intro id present
    rw [same.bindings.cpu]
    exact placed.bound present
  case told =>
    intro id cpu bound
    rw [same.bindings.cpu] at bound
    rw [same.settings, same.affinity]
    exact placed.told id cpu bound

theorem of_retunes (placed : Placed first before) (same : Retunes before after) :
    Placed first after := by
  constructor
  case bound =>
    rw [same.registry]
    exact placed.bound
  case told =>
    rw [same.registry, same.affinity, same.processors]
    exact placed.told

/-- Queues move on to processors that exist. -/
theorem rebalance (some : 0 < initial.processorCount.toNat)
    (few : initial.processorCount.toNat < wordSize32) (broughtUp : BroughtUp initial plane)
    (placed : Placed first plane) : Placed first plane.rebalance.2 := by
  have processors : plane.planner.processors % wordSize32 = initial.processorCount.toNat := by
    unfold Planner.processors
    rw [broughtUp.topology]
    show max initial.processorCount.toNat 1 % wordSize32 = _
    rw [Nat.max_eq_left some, Nat.mod_eq_of_lt few]
  constructor
  case bound =>
    intro id present
    have bound := placed.bound present
    obtain ⟨cpu, found⟩ := Option.isSome_iff_exists.1 bound
    obtain ⟨queue, registered, -⟩ := Registry.cpu?_eq_some_iff.1 found
    exact Registry.isSome_cpu?_bind
      (IdMap.contains_iff.1 (Option.isSome_of_eq_some registered)) (.inr bound)
  case told =>
    show (plane.registry.bind (plane.planner.moves plane.registry)).ToldBindings _
      (pushAffinity plane.datapath.device (plane.planner.moves plane.registry)).affinity
    refine Registry.ToldBindings.bind ?_ placed.told
    intro binding member
    have target := Planner.target_lt_of_mem_moves (processors.symm ▸ some) member
    rw [processors] at target
    show _ < plane.settings.processorCount.toNat
    rw [show plane.settings.processorCount = initial.processorCount from
      congrArg (·.processorCount) broughtUp.layout]
    exact target

theorem of_tells (some : 0 < initial.processorCount.toNat)
    (few : initial.processorCount.toNat < wordSize32) (placed : Placed first before)
    (tells : Tells initial before after) : Placed first after := by
  induction tells with
  | keeps same => exact placed.of_keeps same
  | retunes same => exact placed.of_retunes same
  | rebinds broughtUp => exact placed.rebalance some few broughtUp
  | trans _ _ earlier later => exact later (earlier placed)

end Placed

/-! ## Steps -/

theorem tells_checkHealth (plane : Plane) (time : Nat) :
    Tells initial plane (plane.checkHealth time).2 := by
  have leads : Registry.Leads _ plane.clock.now plane.registry (plane.checkHealth time).2.registry :=
    plane.failover.leads_checkHealth plane.health plane.clock.now time
  exact .keeps ⟨rfl, rfl, rfl, leads.sameBindings RegistryOp.binds_of_byFailover⟩

theorem tells_ageFlows (plane : Plane) (time : Nat) :
    Tells initial plane (plane.ageFlows time).2 :=
  .keeps ⟨rfl, rfl, rfl,
    .of_keeps (Registry.keeps_forgetIdle Queue.cpu_blindToTraffic.flows time _)⟩

theorem tells_adaptCoalescing (plane : Plane) : Tells initial plane plane.adaptCoalescing.2 := by
  have bounded : plane.coalescer.Bounded →
      (plane.coalescer.tick plane.registry.totalPending).2.Bounded :=
    fun bounded => bounded.tick _
  unfold adaptCoalescing
  simp only []
  split
  · exact .retunes ⟨rfl, rfl, fun settings => settings, bounded, .inl rfl⟩
  · rename_i unchanged
    -- The push is left out when the step says that the interval stays.
    have same : plane.coalescer.interval =
        (plane.coalescer.tick plane.registry.totalPending).2.interval := by
      unfold IntervalStep.changed at unchanged
      rw [bne_iff_ne, ne_eq, not_not] at unchanged
      exact unchanged
    exact .retunes ⟨rfl, rfl, fun settings => settings, bounded, .inr ⟨same.symm, rfl⟩⟩

theorem tells_runDuty (broughtUp : BroughtUp initial plane) (time : Nat) (report : TickReport)
    (duty : Duty) : Tells initial plane (runDuty time (report, plane) duty).2 := by
  cases duty with
  | healthCheck => exact plane.tells_checkHealth time
  | adaptiveScheduling => exact .rebinds broughtUp
  | coalesce => exact plane.tells_adaptCoalescing
  | flowAging => exact plane.tells_ageFlows time

theorem tells_tick (broughtUp : BroughtUp initial plane) (time : Nat) :
    Tells initial plane (plane.tick time).2 := by
  suffices duties : ∀ (duties : List Duty) (state : TickReport × Plane),
      BroughtUp initial state.2 →
        Tells initial state.2 (duties.foldl (runDuty time) state).2 by
    unfold tick
    split
    · exact .refl plane
    · have fired : BroughtUp initial { plane with timers := (plane.timers.due time).2 } :=
        { broughtUp with duties := (plane.timers.duties_due time).trans broughtUp.duties }
      have timed : Tells initial plane { plane with timers := (plane.timers.due time).2 } :=
        .keeps ⟨rfl, rfl, rfl, .refl _⟩
      exact timed.trans (duties _ ({ fired := _ }, _) fired)
  intro duties
  induction duties with
  | nil => exact fun state _ => .refl state.2
  | cons duty rest ih =>
      intro state broughtUp
      exact .trans (tells_runDuty broughtUp time state.1 duty)
        (ih _ (broughtUp.of_keeps (keepsSettings_runDuty time state duty)))

/-- What an update that is accepted does to coalescing. -/
theorem retunes_updateSettings {settings : Settings} {updated : Plane}
    (taken : plane.updateSettings settings = (.ok (), updated)) :
    Retunes plane updated ∧ updated.coalescer =
      { settings := settings.coalesce
        interval := settings.coalesce.bound plane.coalescer.interval } := by
  unfold updateSettings at taken
  cases checked : plane.settings.validateChange settings with
  | error error =>
      rw [checked] at taken
      cases taken
  | ok _ =>
      obtain ⟨valid, layout⟩ := validateChange_eq_ok_iff.1 checked
      have coalesce := Settings.validate_coalesce valid
      have coalescing := Coalescer.setSettings_of_valid coalesce plane.coalescer
      have processors : settings.processorCount = plane.settings.processorCount :=
        (congrArg (·.processorCount) layout).symm
      have bounded := Coalescer.bounded_bound (Coalescer.ordered_of_valid coalesce)
        plane.coalescer.interval
      rw [checked] at taken
      simp only [coalescing] at taken
      obtain ⟨-, rfl⟩ := Prod.mk.inj taken
      split
      · rename_i same
        exact ⟨⟨rfl, processors, fun _ => rfl, fun _ => bounded, .inr ⟨same, rfl⟩⟩, rfl⟩
      · exact ⟨⟨rfl, processors, fun _ => rfl, fun _ => bounded, .inl rfl⟩, rfl⟩

theorem tells_updateSettings (plane : Plane) (settings : Settings) :
    Tells initial plane (plane.updateSettings settings).2 := by
  rcases plane.updateSettings_cases settings with ⟨_, _, result⟩ | ⟨_, updated, result, _⟩
  · rw [result]
    exact .refl plane
  · have retunes := (retunes_updateSettings result).1
    rw [result]
    exact .retunes retunes

theorem tells_setInterval (plane : Plane) (usecs : Nat) :
    Tells initial plane (plane.setInterval usecs) :=
  .retunes ⟨rfl, rfl, fun settings => settings, fun bounded => bounded.setInterval usecs, .inl rfl⟩

theorem quiet_closeQueue (now : Nat) (state : ShutdownReport × Link) (id : QueueId) :
    state.2.Quiet (closeQueue now state id).2 := by
  have quiet := state.2.quiet_drain id none now
  exact ⟨quiet.hints, quiet.bindings⟩

theorem tells_runWorkers (plane : Plane) : Tells initial plane plane.runWorkers := by
  have quiet := Link.quiet_foldl (fun link => link)
    (fun link id => link.quiet_work id plane.workerBudget plane.clock.now)
    plane.registry.queueIds plane.link
  exact .keeps ⟨rfl, rfl, quiet.hints, quiet.bindings⟩

theorem tells_shutdown (plane : Plane) : Tells initial plane plane.shutdown.2 := by
  have quiet := Link.quiet_foldl Prod.snd (quiet_closeQueue plane.clock.now)
    plane.registry.queueIds ({}, plane.link)
  unfold shutdown
  split
  · exact .refl plane
  · exact .keeps ⟨rfl, rfl, quiet.hints, quiet.bindings.trans
      (.of_keeps (Registry.keeps_forgetAll Queue.cpu_blindToTraffic.flows))⟩

/-! ## Runs -/

theorem tells_step (broughtUp : BroughtUp initial plane) {operation : PlaneOp}
    (silent : operation.setsHints = false) : Tells initial plane (plane.step operation) := by
  cases operation with
  | part op =>
      exact .keeps ⟨rfl, rfl, plane.system.hints_step silent, plane.system.sameBindings_step silent⟩
  | setCoalescing settings => cases silent
  | adaptCoalescer pending => cases silent
  | tick time => exact tells_tick broughtUp time
  | updateSettings settings => exact plane.tells_updateSettings settings
  | setInterval usecs => exact plane.tells_setInterval usecs
  | runWorkers => exact plane.tells_runWorkers
  | shutdown => exact plane.tells_shutdown
  | _ => exact .keeps ⟨rfl, rfl, rfl, .refl _⟩

theorem tells_run (broughtUp : BroughtUp initial plane) {operations : List PlaneOp}
    (silent : ∀ op ∈ operations, op.setsHints = false) :
    Tells initial plane (plane.run operations) := by
  induction operations generalizing plane with
  | nil => exact .refl plane
  | cons operation rest ih =>
      obtain ⟨now, later⟩ := List.forall_mem_cons.1 silent
      exact .trans (tells_step broughtUp now) (ih (broughtUp.step operation) later)

section BringUp

variable {device : Device} {clock : Clock} {registry : Registry}

theorem Started.tuned (started : Started initial device clock registry plane) :
    Tuned plane plane := by
  have settings : plane.settings = initial := by rw [started.assembled]; rfl
  have coalescer : plane.coalescer = newCoalescer initial := by rw [started.assembled]; rfl
  constructor
  case settings => rw [coalescer, settings]; rfl
  case bounded =>
    rw [coalescer]
    exact Coalescer.bounded_bound
      (Coalescer.ordered_of_valid (Settings.validate_coalesce started.valid)) _
  case interval =>
    intro id present
    rw [coalescer, started.interval present]
  case late => exact fun _ => .inl rfl
  case present => exact fun present => present

theorem Started.placed (started : Started initial device clock registry plane)
    (few : initial.processorCount.toNat < wordSize32) : Placed plane plane := by
  have settings : plane.settings = initial := by rw [started.assembled]; rfl
  constructor
  case bound => exact fun present => started.bound present
  case told =>
    intro id cpu bound
    obtain ⟨⟨queue, -, placed⟩, told⟩ := started.told _ _ bound
    have exist := lt_of_places (Settings.fits_of_valid started.valid).processors few placed
    rw [settings]
    exact ⟨exist, told⟩

theorem tuned_run (started : start initial device clock = .ok plane) {operations : List PlaneOp}
    (silent : ∀ op ∈ operations, op.setsHints = false) : Tuned plane (plane.run operations) := by
  obtain ⟨registry, made⟩ := started_of_start started
  exact made.tuned.of_tells (tells_run (.of_start started) silent)

/-- Interval and processors of the plane are the hints of the device. -/
structure InStep (first plane : Plane) : Prop extends Tuned first plane, Placed first plane

/-- After every run that programs the device through the plane alone, the device knows what the
plane has settled on. -/
theorem inStep_run (started : start initial device clock = .ok plane)
    (few : initial.processorCount.toNat < wordSize32) {operations : List PlaneOp}
    (silent : ∀ op ∈ operations, op.setsHints = false) :
    InStep plane (plane.run operations) := by
  obtain ⟨registry, made⟩ := started_of_start started
  have some := (Settings.fits_of_valid made.valid).processors
  have tells := tells_run (.of_start started) silent
  exact ⟨made.tuned.of_tells tells, (made.placed few).of_tells some few tells⟩

end BringUp

/-- A tick under load moves a queue on and halves the interval; tighter bounds and an interval that
is set by hand move it again. -/
theorem inStep_run_under_load :
    let initial : Settings := {
      queueCount := 2, maxQueues := 2, processorCount := 3
      pool := { buffersPerNode := 2, bufferSize := 64 } }
    let operations : List PlaneOp := [.part (.registry (.addWork 1 3000)),
      .part (.advance 1000), .tick 1000,
      .updateSettings { initial with coalesce := { minUsecs := 40, maxUsecs := 80 } },
      .setInterval 200, .shutdown]
    ∃ plane, start initial { ringCapacity := 2 } {} = .ok plane ∧
      InStep plane (plane.run operations) ∧
      (plane.run operations).datapath.device.coalescing.toList = [(0, 80), (1, 80)] ∧
      (plane.run operations).datapath.device.affinity.toList = [(0, 0), (1, 2)] := by
  intro initial operations
  have started : start initial { ringCapacity := 2 } {} = .ok _ :=
    start_of_room rfl rfl (by decide) rfl (by decide)
  exact ⟨_, started, inStep_run started (by decide) (by decide), by decide, by decide⟩

/-- A queue that is registered after the bring-up is not bound, and the device has no interval for
it. -/
theorem late_queue_out_of_step :
    let initial : Settings := {
      queueCount := 1, maxQueues := 2, pool := { buffersPerNode := 2, bufferSize := 64 } }
    ∃ plane, start initial { ringCapacity := 2 } {} = .ok plane ∧
      let late := plane.run [.part (.registry (.register 1 0))]
      1 ∈ late.registry.queueIds ∧
        late.datapath.device.coalescing.get? 1 ≠ some late.coalescer.interval ∧
        late.registry.cpu? 1 = none := by
  intro initial
  have started : start initial { ringCapacity := 2 } {} = .ok _ :=
    start_of_room rfl rfl (by decide) rfl (by decide)
  exact ⟨_, started, by decide⟩

end Plane

end FlowSteer
