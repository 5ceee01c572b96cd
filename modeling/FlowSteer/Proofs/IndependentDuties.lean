import FlowSteer.Proofs.Failover.Upkeep
import FlowSteer.Proofs.Plane.Effects
import FlowSteer.Proofs.Rebalancing
import FlowSteer.Proofs.Reconfiguration

/-!
# Periodic duties are independent

The four periodic duties can be done in any order. They share the registry, and a health pass moves
whole flow tables while aging takes flows out of them; but a pass does not look at what the others
change, and what it moves it moves in the same way whatever was forgotten before. Only how many
flows a failed queue had to move depends on the order.

1. `runDuty_comm`: rebalancing and coalescing can be done before any other duty or after it, with
   the same result. Rebalancing and coalescing look at the load alone, which no other duty changes
   (`Planner.moves_of_keeps`), and they push different hints to the device.
2. `agree_healthCheck_flowAging`: a health pass and aging can change places, but for the numbers of
   flows that were moved (`Agree`). Aging is upkeep, and a pass comes to the same before it as after
   it (`checkHealth_upkept`). As many flows are idle after a pass as before it
   (`expired_checkHealth`).
3. `agree_of_perm`, `eq_of_perm`: hence duties can be done in any order, and where health passes and
   aging keep theirs the numbers of flows are the same too.
4. `foldlM_tryDuty`: whether the program stops at a rebalance pass does not depend on the order
   either, since no duty changes the pending work.
5. `independent_run`: so it is in every plane that is reached.
-/

namespace FlowSteer

/-- Does the duty move or forget flows. -/
def Duty.touchesFlows : Duty → Bool
  | healthCheck | flowAging => true
  | adaptiveScheduling | coalesce => false

theorem Duty.eq_of_touchesFlows {duty : Duty} (touches : duty.touchesFlows = true) :
    duty = healthCheck ∨ duty = flowAging := by
  cases duty with
  | healthCheck => exact .inl rfl
  | flowAging => exact .inr rfl
  | adaptiveScheduling => cases touches
  | coalesce => cases touches

/-! ## The load -/

/-- What of a queue decides where it is bound. -/
def Queue.load (queue : Queue) : Option CpuId × Nat := (queue.cpu, queue.pending)

namespace Registry

theorem totalPending_of_keeps {before after : Registry} (same : Keeps Queue.pending before after) :
    after.totalPending = before.totalPending :=
  congrArg (· % wordSize) same.total_eq

theorem Keeps.totalPending {before after : Registry} (same : Keeps Queue.load before after) :
    after.totalPending = before.totalPending :=
  totalPending_of_keeps (same.comp Prod.snd)

theorem totalPending_bind (registry : Registry) (bindings : List Binding) :
    (registry.bind bindings).totalPending = registry.totalPending :=
  totalPending_of_keeps (keeps_bind (fun _ _ => rfl) bindings)

end Registry

/-- Equal loads are balanced in the same way. -/
theorem Planner.moves_of_keeps {before after : Registry} (planner : Planner)
    (same : Registry.Keeps Queue.load before after) :
    planner.moves after = planner.moves before := by
  have loads := congrArg IdMap.toList same.map_queues
  have size : after.size = before.size := by
    have lengths := congrArg List.length same.queueIds
    unfold Registry.queueIds IdMap.ids at lengths
    rwa [List.length_map, List.length_map] at lengths
  have pending := same.totalPending
  have listed : ∀ registry : Registry, ∀ share processors,
      (registry.queues.toList.filter (share < ·.2.pending)).map (fun entry =>
        ({ queue := entry.1, source := entry.2.cpu,
           target := (entry.2.cpu.getD entry.1 + 1) % processors } : Binding)) =
      ((registry.queues.map fun _ => Queue.load).toList.filter (share < ·.2.2)).map fun entry =>
        { queue := entry.1, source := entry.2.1,
          target := (entry.2.1.getD entry.1 + 1) % processors } := by
    intro registry share processors
    show _ = ((registry.queues.toList.map fun entry => (entry.1, entry.2.load)).filter _).map _
    rw [List.filter_map, List.map_map]
    rfl
  unfold moves
  simp only [listed, loads, size, pending]

/-! ## The device -/

namespace Plane

/-- Processors and an interval are pushed in either order. -/
theorem pushInterval_pushAffinity (device : Device) (bindings : List Binding)
    (ids : List QueueId) (usecs : Nat) :
    pushInterval (pushAffinity device bindings) ids usecs =
      pushAffinity (pushInterval device ids usecs) bindings := by
  induction bindings generalizing device with
  | nil => rfl
  | cons binding rest ih =>
      have first : pushInterval (device.setAffinity binding.queue binding.target) ids usecs =
          (pushInterval device ids usecs).setAffinity binding.queue binding.target := by
        rw [pushInterval_eq, pushInterval_eq]
        rfl
      have later := ih (device.setAffinity binding.queue binding.target)
      rw [first] at later
      exact later

end Plane

/-! ## Agreement -/

/-- The report without the numbers of flows that were moved. -/
def TickReport.uncounted (report : TickReport) : TickReport :=
  { report with health := report.health.map (CheckReport.recounted fun _ => 0) }

namespace Plane

/-- The plane without the numbers of flows that were moved. -/
def uncounted (plane : Plane) : Plane :=
  { plane with failover := plane.failover.recounted fun _ => 0 }

/-- Reports and planes are the same but for the numbers of flows that were moved. -/
structure Agree (first second : TickReport × Plane) : Prop where
  report : second.1.uncounted = first.1.uncounted
  plane : second.2.uncounted = first.2.uncounted

namespace Agree

variable {first second third : TickReport × Plane}

theorem refl (state : TickReport × Plane) : Agree state state := ⟨rfl, rfl⟩

theorem symm (agree : Agree first second) : Agree second first :=
  ⟨agree.report.symm, agree.plane.symm⟩

theorem trans (earlier : Agree first second) (later : Agree second third) : Agree first third :=
  ⟨later.report.trans earlier.report, later.plane.trans earlier.plane⟩

theorem of_eq (same : first = second) : Agree first second := same ▸ refl first

/-- Planes that agree differ in their histories at most. -/
theorem exists_history (agree : Agree first second) :
    ∃ history : List Remap,
      history.map (Remap.recounted fun _ => 0) =
        first.2.failover.history.map (Remap.recounted fun _ => 0) ∧
      second.2 = { first.2 with failover := { first.2.failover with history } } := by
  have histories := congrArg (·.failover.history) agree.plane
  refine ⟨second.2.failover.history, histories, ?_⟩
  have put : ∀ plane : Plane, plane = { plane.uncounted with
      failover := { plane.uncounted.failover with history := plane.failover.history } } :=
    fun _ => rfl
  rw [put second.2, agree.plane]
  rfl

end Agree

/-! ## What the duties do -/

variable {plane : Plane} {report : TickReport} {now : Nat}

/-- The device after a tick of the coalescing interval. -/
def tuned (coalescer : Coalescer) (pending : Nat) (ids : List QueueId) (device : Device) :
    Device :=
  if (coalescer.tick pending).1.changed then
    pushInterval device ids (coalescer.tick pending).2.interval
  else device

theorem tuned_pushAffinity (coalescer : Coalescer) (pending : Nat) (ids : List QueueId)
    (device : Device) (bindings : List Binding) :
    tuned coalescer pending ids (pushAffinity device bindings) =
      pushAffinity (tuned coalescer pending ids device) bindings := by
  unfold tuned
  split
  · exact pushInterval_pushAffinity _ _ _ _
  · rfl

theorem runDuty_coalesce (now : Nat) (report : TickReport) (plane : Plane) :
    runDuty now (report, plane) .coalesce =
      ({ report with coalesce := some (plane.coalescer.tick plane.registry.totalPending).1 },
        { plane with
          coalescer := (plane.coalescer.tick plane.registry.totalPending).2
          datapath := { plane.datapath with
            device := tuned plane.coalescer plane.registry.totalPending plane.registry.queueIds
              plane.datapath.device } }) := by
  unfold runDuty adaptCoalescing tuned
  simp only []
  split <;> rfl

/-- The plane after some queues are bound. -/
def bound (plane : Plane) (bindings : List Binding) : Plane :=
  { plane with
    failover := { plane.failover with registry := plane.registry.bind bindings }
    datapath := { plane.datapath with
      device := pushAffinity plane.datapath.device bindings } }

theorem runDuty_adaptiveScheduling (now : Nat) (report : TickReport) (plane : Plane) :
    runDuty now (report, plane) .adaptiveScheduling =
      ({ report with bindings := plane.planner.moves plane.registry },
        plane.bound (plane.planner.moves plane.registry)) := rfl

theorem runDuty_healthCheck (now : Nat) (report : TickReport) (plane : Plane) :
    runDuty now (report, plane) .healthCheck =
      ({ report with health := some (plane.checkHealth now).1 }, (plane.checkHealth now).2) := rfl

theorem runDuty_flowAging (now : Nat) (report : TickReport) (plane : Plane) :
    runDuty now (report, plane) .flowAging =
      ({ report with expiredFlows := (plane.ageFlows now).1 }, (plane.ageFlows now).2) := rfl

theorem load_checkHealth (plane : Plane) (time : Nat) :
    Registry.Keeps Queue.load plane.registry (plane.checkHealth time).2.registry := by
  have leads : Registry.Leads RegistryOp.byFailover plane.clock.now plane.registry
      (plane.checkHealth time).2.registry :=
    plane.failover.leads_checkHealth plane.health plane.clock.now time
  exact leads.keeps fun _ op allowed =>
    Registry.keeps_byFailover (fun _ _ _ => rfl) (fun _ _ _ => rfl) op allowed

theorem load_ageFlows (plane : Plane) (time : Nat) :
    Registry.Keeps Queue.load plane.registry (plane.ageFlows time).2.registry :=
  Registry.keeps_forgetIdle (fun _ _ => rfl) time _

/-! ## Coalescing and another duty -/

theorem coalesce_healthCheck (now : Nat) (state : TickReport × Plane) :
    runDuty now (runDuty now state .coalesce) .healthCheck =
      runDuty now (runDuty now state .healthCheck) .coalesce := by
  obtain ⟨report, plane⟩ := state
  have load := plane.load_checkHealth now
  have pending := load.totalPending
  rw [runDuty_healthCheck now report plane, runDuty_coalesce now report plane, runDuty_coalesce,
    pending, load.queueIds]
  rfl

theorem coalesce_flowAging (now : Nat) (state : TickReport × Plane) :
    runDuty now (runDuty now state .coalesce) .flowAging =
      runDuty now (runDuty now state .flowAging) .coalesce := by
  obtain ⟨report, plane⟩ := state
  have load := plane.load_ageFlows now
  have pending := load.totalPending
  rw [runDuty_flowAging now report plane, runDuty_coalesce now report plane, runDuty_coalesce,
    pending, load.queueIds]
  rfl

theorem coalesce_adaptiveScheduling (now : Nat) (state : TickReport × Plane) :
    runDuty now (runDuty now state .coalesce) .adaptiveScheduling =
      runDuty now (runDuty now state .adaptiveScheduling) .coalesce := by
  obtain ⟨report, plane⟩ := state
  generalize bound : plane.planner.moves plane.registry = bindings
  have pending : (plane.bound bindings).registry.totalPending = plane.registry.totalPending :=
    plane.registry.totalPending_bind bindings
  have ids : (plane.bound bindings).registry.queueIds = plane.registry.queueIds :=
    Registry.queueIds_bind _ _
  have device : tuned (plane.bound bindings).coalescer plane.registry.totalPending
        plane.registry.queueIds (plane.bound bindings).datapath.device =
      pushAffinity (tuned plane.coalescer plane.registry.totalPending plane.registry.queueIds
        plane.datapath.device) bindings :=
    tuned_pushAffinity _ _ _ _ _
  rw [runDuty_adaptiveScheduling now report plane, bound, runDuty_coalesce now report plane,
    runDuty_coalesce, pending, ids, device, ← bound]
  rfl

/-! ## Aging and rebalancing -/

/-- Idle flows are forgotten and queues bound in either order. -/
theorem forgetIdle_bind {registry : Registry} (own : registry.Ownership)
    (bindings : List Binding) (time timeout : Nat) :
    (registry.bind bindings).forgetIdle time timeout =
      ((registry.forgetIdle time timeout).1,
        (registry.forgetIdle time timeout).2.bind bindings) := by
  have bound := Registry.upkept_bind own bindings
  have aged := Registry.upkept_forgetIdle own time timeout
  have boundAged := Registry.upkept_bind aged.ownAfter bindings
  have agedBound := Registry.upkept_forgetIdle bound.ownAfter time timeout
  apply Prod.ext
  · exact (Registry.keeps_bind (fun _ _ => rfl) bindings).total_eq
  · refine boundAged.ownAfter.eq_of_queues agedBound.ownAfter rfl rfl ?_
    ext1 id
    rw [agedBound.queues, bound.queues, boundAged.queues, aged.queues, Option.map_map,
      Option.map_map]
    apply Option.map_congr
    intro queue _
    simp only [Function.comp, Upkeep.queue_binding]
    rfl

theorem ageFlows_bound (own : plane.registry.Ownership) (bindings : List Binding) (time : Nat) :
    (plane.bound bindings).ageFlows time =
      ((plane.ageFlows time).1, (plane.ageFlows time).2.bound bindings) := by
  have aged := forgetIdle_bind own bindings time plane.settings.flows.idleTimeoutMs.toNat
  exact congrArg (fun aged : Nat × Registry => (aged.1, { plane.bound bindings with
    failover := { plane.failover with registry := aged.2 } })) aged

theorem flowAging_adaptiveScheduling {state : TickReport × Plane}
    (own : state.2.registry.Ownership) (now : Nat) :
    runDuty now (runDuty now state .flowAging) .adaptiveScheduling =
      runDuty now (runDuty now state .adaptiveScheduling) .flowAging := by
  obtain ⟨report, plane⟩ := state
  have moves : (plane.ageFlows now).2.planner.moves (plane.ageFlows now).2.registry =
      plane.planner.moves plane.registry :=
    plane.planner.moves_of_keeps (plane.load_ageFlows now)
  rw [runDuty_flowAging, runDuty_adaptiveScheduling, runDuty_adaptiveScheduling,
    runDuty_flowAging, ageFlows_bound own, moves]

/-! ## The health pass -/

/-- A health pass comes to the same before an upkeep as after it. -/
theorem checkHealth_upkept {upkeep : Upkeep} {failover : Failover} {registry : Registry}
    (time : Nat) (upkept : plane.failover.Upkept upkeep failover)
    (left : (plane.checkHealth time).2.registry.Upkept upkeep registry) :
    ({ plane with failover }.checkHealth time).1.recounted upkeep.recount =
        (plane.checkHealth time).1.recounted upkeep.recount ∧
      ({ plane with failover }.checkHealth time).2.failover.recounted upkeep.recount =
        { (plane.checkHealth time).2.failover with registry }.recounted upkeep.recount := by
  have follows := upkept.checkHealth plane.health plane.clock.now time
  exact ⟨follows.report, follows.left.recounted_eq left⟩

theorem ownership_checkHealth (own : plane.registry.Ownership) (time : Nat) :
    (plane.checkHealth time).2.registry.Ownership := by
  have state : (({}, plane) : TickReport × Plane).2.registry.Ownership := own
  exact ownership_runDuty state time .healthCheck

/-- Every flow is kept when queues are bound, so that a pass moves as many. -/
theorem checkHealth_bound (own : plane.registry.Ownership) (bindings : List Binding)
    (time : Nat) :
    (plane.bound bindings).checkHealth time =
      ((plane.checkHealth time).1, (plane.checkHealth time).2.bound bindings) := by
  have upkept : plane.failover.Upkept (.binding bindings) (plane.bound bindings).failover :=
    ⟨Registry.upkept_bind own bindings, rfl, rfl, rfl, rfl⟩
  have counts : (Upkeep.binding bindings).recount = id := rfl
  obtain ⟨report, left⟩ := checkHealth_upkept time upkept
    (Registry.upkept_bind (ownership_checkHealth own time) bindings)
  rw [counts, CheckReport.recounted_id, CheckReport.recounted_id] at report
  rw [counts, Failover.recounted_id, Failover.recounted_id] at left
  exact congrArg₂ (fun report failover => (report, { plane.bound bindings with failover }))
    report left

theorem healthCheck_adaptiveScheduling {state : TickReport × Plane}
    (own : state.2.registry.Ownership) (now : Nat) :
    runDuty now (runDuty now state .healthCheck) .adaptiveScheduling =
      runDuty now (runDuty now state .adaptiveScheduling) .healthCheck := by
  obtain ⟨report, plane⟩ := state
  have moves : (plane.checkHealth now).2.planner.moves (plane.checkHealth now).2.registry =
      plane.planner.moves plane.registry :=
    plane.planner.moves_of_keeps (plane.load_checkHealth now)
  rw [runDuty_healthCheck, runDuty_adaptiveScheduling, runDuty_adaptiveScheduling,
    runDuty_healthCheck, checkHealth_bound own, moves]

/-! ## The health pass and aging -/

theorem checkHealth_ageFlows (own : plane.registry.Ownership) (time : Nat) :
    ((plane.ageFlows time).2.checkHealth time).1.recounted (fun _ => 0) =
        (plane.checkHealth time).1.recounted (fun _ => 0) ∧
      ((plane.ageFlows time).2.checkHealth time).2.uncounted =
        ((plane.checkHealth time).2.ageFlows time).2.uncounted := by
  have upkept : plane.failover.Upkept (.aging time plane.settings.flows.idleTimeoutMs.toNat)
      (plane.ageFlows time).2.failover :=
    ⟨Registry.upkept_forgetIdle own time _, rfl, rfl, rfl, rfl⟩
  obtain ⟨report, left⟩ := checkHealth_upkept time upkept
    (Registry.upkept_forgetIdle (ownership_checkHealth own time) time _)
  exact ⟨report, congrArg (fun failover => { plane with failover }) left⟩

/-- A health pass moves flows, and there are as many after it. -/
theorem flowCount_checkHealth (own : plane.registry.Ownership) (time : Nat) :
    (plane.checkHealth time).2.registry.flowCount = plane.registry.flowCount := by
  have leads : Registry.Leads RegistryOp.byFailover plane.clock.now plane.registry
      (plane.checkHealth time).2.registry :=
    plane.failover.leads_checkHealth plane.health plane.clock.now time
  exact leads.flowCount own

/-- As many flows are idle after a health pass: with it and without it there are as many before
the aging pass, and as many after it. -/
theorem expired_checkHealth (own : plane.registry.Ownership) (time : Nat) :
    ((plane.checkHealth time).2.ageFlows time).1 = (plane.ageFlows time).1 := by
  have checked := ownership_checkHealth own time
  let timeout := plane.settings.flows.idleTimeoutMs.toNat
  have aged : (plane.ageFlows time).2.registry.Ownership := own.forgetIdle time timeout
  have counts : (plane.ageFlows time).1 + (plane.ageFlows time).2.registry.flowCount =
      plane.registry.flowCount := own.forgotten_add_left time timeout
  have countsChecked : ((plane.checkHealth time).2.ageFlows time).1 +
      ((plane.checkHealth time).2.ageFlows time).2.registry.flowCount =
        (plane.checkHealth time).2.registry.flowCount := checked.forgotten_add_left time timeout
  have left : ((plane.ageFlows time).2.checkHealth time).2.registry.flowCount =
      ((plane.checkHealth time).2.ageFlows time).2.registry.flowCount :=
    congrArg (·.registry.flowCount) (checkHealth_ageFlows own time).2
  have kept := flowCount_checkHealth own time
  have keptAged := flowCount_checkHealth aged time
  omega

theorem agree_healthCheck_flowAging {state : TickReport × Plane}
    (own : state.2.registry.Ownership) (now : Nat) :
    Agree (runDuty now (runDuty now state .healthCheck) .flowAging)
      (runDuty now (runDuty now state .flowAging) .healthCheck) := by
  obtain ⟨report, plane⟩ := state
  obtain ⟨found, left⟩ := checkHealth_ageFlows own now
  rw [runDuty_flowAging, runDuty_healthCheck, runDuty_healthCheck, runDuty_flowAging,
    expired_checkHealth own]
  exact ⟨congrArg (fun health => { report with
    expiredFlows := (plane.ageFlows now).1, health := some health }) found, left⟩

/-! ## Two duties -/

/-- What does not touch flows can be done before another duty or after it. -/
theorem runDuty_comm {state : TickReport × Plane} {duty : Duty}
    (apart : duty.touchesFlows = false) (own : state.2.registry.Ownership) (now : Nat)
    (other : Duty) :
    runDuty now (runDuty now state duty) other = runDuty now (runDuty now state other) duty := by
  cases duty with
  | healthCheck => cases apart
  | flowAging => cases apart
  | coalesce =>
      cases other with
      | healthCheck => exact coalesce_healthCheck now state
      | adaptiveScheduling => exact coalesce_adaptiveScheduling now state
      | coalesce => rfl
      | flowAging => exact coalesce_flowAging now state
  | adaptiveScheduling =>
      cases other with
      | healthCheck => exact (healthCheck_adaptiveScheduling own now).symm
      | adaptiveScheduling => rfl
      | coalesce => exact (coalesce_adaptiveScheduling now state).symm
      | flowAging => exact (flowAging_adaptiveScheduling own now).symm

theorem agree_swap {state : TickReport × Plane} (own : state.2.registry.Ownership) (now : Nat)
    (first second : Duty) :
    Agree (runDuty now (runDuty now state first) second)
      (runDuty now (runDuty now state second) first) := by
  cases firstTouches : first.touchesFlows with
  | false => exact .of_eq (runDuty_comm firstTouches own now second)
  | true =>
      cases secondTouches : second.touchesFlows with
      | false => exact .of_eq (runDuty_comm secondTouches own now first).symm
      | true =>
          obtain rfl | rfl := Duty.eq_of_touchesFlows firstTouches
          · obtain rfl | rfl := Duty.eq_of_touchesFlows secondTouches
            · exact .refl _
            · exact agree_healthCheck_flowAging own now
          · obtain rfl | rfl := Duty.eq_of_touchesFlows secondTouches
            · exact (agree_healthCheck_flowAging own now).symm
            · exact .refl _

/-! ## Planes that agree -/

/-- No duty but the health pass looks at the numbers of flows that were moved. -/
theorem runDuty_uncounted {duty : Duty} (other : duty ≠ .healthCheck) (now : Nat)
    (report : TickReport) (plane : Plane) :
    runDuty now (report.uncounted, plane.uncounted) duty =
      ((runDuty now (report, plane) duty).1.uncounted,
        (runDuty now (report, plane) duty).2.uncounted) := by
  cases duty with
  | healthCheck => exact absurd rfl other
  | adaptiveScheduling => rfl
  | coalesce =>
      rw [runDuty_coalesce, runDuty_coalesce]
      rfl
  | flowAging => rfl

namespace Agree

variable {first second : TickReport × Plane}

/-- The health pass does not look at them either: it adds to them. -/
theorem checkHealth (agree : Agree first second) (own : first.2.registry.Ownership) (now : Nat) :
    Agree (runDuty now first .healthCheck) (runDuty now second .healthCheck) := by
  obtain ⟨history, histories, left⟩ := agree.exists_history
  obtain ⟨report, plane⟩ := first
  obtain ⟨otherReport, other⟩ := second
  obtain rfl : other = _ := left
  have upkept : plane.failover.Upkept .none { plane.failover with history } :=
    ⟨.refl own, rfl, rfl, rfl, histories⟩
  obtain ⟨found, left⟩ := checkHealth_upkept now upkept (.refl (ownership_checkHealth own now))
  refine ⟨?_, congrArg (fun failover => { plane with failover }) left⟩
  exact congrArg₂ (fun (report : TickReport) health => { report with health := some health })
    agree.report found

theorem runDuty (agree : Agree first second) (own : first.2.registry.Ownership) (now : Nat)
    (duty : Duty) : Agree (runDuty now first duty) (runDuty now second duty) := by
  by_cases health : duty = .healthCheck
  · subst health
    exact agree.checkHealth own now
  · have same : (second.1.uncounted, second.2.uncounted) =
        (first.1.uncounted, first.2.uncounted) := by rw [agree.report, agree.plane]
    have done := congrArg (Plane.runDuty now · duty) same
    simp only [runDuty_uncounted health] at done
    exact ⟨congrArg Prod.fst done, congrArg Prod.snd done⟩

theorem runDuties (agree : Agree first second) (own : first.2.registry.Ownership) (now : Nat)
    (duties : List Duty) :
    Agree (duties.foldl (Plane.runDuty now) first) (duties.foldl (Plane.runDuty now) second) := by
  induction duties generalizing first second with
  | nil => exact agree
  | cons duty rest ih => exact ih (agree.runDuty own now duty) (ownership_runDuty own now duty)

end Agree

/-! ## Any order -/

/-- Duties can be done in any order. -/
theorem agree_of_perm {first second : List Duty} (order : first.Perm second) {now : Nat}
    {state : TickReport × Plane} (own : state.2.registry.Ownership) :
    Agree (first.foldl (runDuty now) state) (second.foldl (runDuty now) state) := by
  induction order generalizing state with
  | nil => exact .refl state
  | cons duty _ ih => exact ih (ownership_runDuty own now duty)
  | swap later earlier rest =>
      exact (agree_swap own now _ _).runDuties
        (ownership_runDuty (ownership_runDuty own now _) now _) now rest
  | trans _ _ ihFirst ihSecond => exact (ihFirst own).trans (ihSecond own)

/-- A duty can be done first when none of those before it depends on it. -/
theorem foldl_middle {duty : Duty} {earlier : List Duty} (later : List Duty) (now : Nat)
    {state : TickReport × Plane} (own : state.2.registry.Ownership)
    (apart : ∀ before ∈ earlier, duty.touchesFlows = false ∨ before.touchesFlows = false) :
    (earlier ++ duty :: later).foldl (runDuty now) state =
      (earlier ++ later).foldl (runDuty now) (runDuty now state duty) := by
  induction earlier generalizing state with
  | nil => rfl
  | cons before rest ih =>
      obtain ⟨here, left⟩ := List.forall_mem_cons.1 apart
      have swap : runDuty now (runDuty now state before) duty =
          runDuty now (runDuty now state duty) before := by
        rcases here with free | free
        · exact (runDuty_comm free own now before).symm
        · exact runDuty_comm free own now duty
      have moved := ih (ownership_runDuty own now before) left
      rw [swap] at moved
      exact moved

/-- The first of some duties is found in another order of them, after duties that do not depend on
it, provided that those that touch flows come in the same order. -/
theorem exists_middle {duty : Duty} {rest second : List Duty} (order : (duty :: rest).Perm second)
    (same : second.filter Duty.touchesFlows = (duty :: rest).filter Duty.touchesFlows) :
    ∃ earlier later, second = earlier ++ duty :: later ∧
      (∀ before ∈ earlier, duty.touchesFlows = false ∨ before.touchesFlows = false) ∧
      (earlier ++ later).filter Duty.touchesFlows = rest.filter Duty.touchesFlows := by
  cases touches : duty.touchesFlows with
  | false =>
      obtain ⟨earlier, later, rfl⟩ := List.append_of_mem (order.mem_iff.1 List.mem_cons_self)
      refine ⟨earlier, later, rfl, fun _ _ => .inl rfl, ?_⟩
      have skipped : ¬ duty.touchesFlows = true := by simp [touches]
      rwa [List.filter_append, List.filter_cons_of_neg skipped, List.filter_cons_of_neg skipped,
        ← List.filter_append] at same
  | true =>
      rw [List.filter_cons_of_pos touches] at same
      obtain ⟨earlier, later, rfl, free, -, left⟩ := List.filter_eq_cons_iff.1 same
      have apart : ∀ before ∈ earlier, before.touchesFlows = false := by simpa using free
      refine ⟨earlier, later, rfl, fun before listed => .inr (apart before listed), ?_⟩
      rw [List.filter_append, List.filter_eq_nil_iff.2 free, List.nil_append, left]

/-- Where the duties that touch flows keep their order, all comes out the same. -/
theorem eq_of_perm {first second : List Duty} (order : first.Perm second)
    (same : second.filter Duty.touchesFlows = first.filter Duty.touchesFlows) {now : Nat}
    {state : TickReport × Plane} (own : state.2.registry.Ownership) :
    second.foldl (runDuty now) state = first.foldl (runDuty now) state := by
  induction first generalizing second state with
  | nil => rw [order.nil_eq]
  | cons duty rest ih =>
      obtain ⟨earlier, later, rfl, apart, left⟩ := exists_middle order same
      have orderLeft : rest.Perm (earlier ++ later) := (order.trans List.perm_middle).cons_inv
      rw [foldl_middle later now own apart]
      exact ih orderLeft left (ownership_runDuty own now duty)

/-! ## Duties at which the program stops -/

theorem totalPending_runDuty (now : Nat) (state : TickReport × Plane) (duty : Duty) :
    (runDuty now state duty).2.registry.totalPending = state.2.registry.totalPending := by
  obtain ⟨report, plane⟩ := state
  cases duty with
  | healthCheck => exact (plane.load_checkHealth now).totalPending
  | adaptiveScheduling => exact plane.registry.totalPending_bind _
  | coalesce =>
      rw [runDuty_coalesce]
      rfl
  | flowAging => exact (plane.load_ageFlows now).totalPending

/-- No duty changes whether the program stops at a rebalance pass. -/
theorem stops_runDuty (now : Nat) (state : TickReport × Plane) (duty : Duty) :
    (runDuty now state duty).2.planner.stops (runDuty now state duty).2.registry =
      state.2.planner.stops state.2.registry := by
  have planner := (keepsSettings_runDuty now state duty).planner
  rw [Bool.eq_iff_iff, Planner.stops_iff, Planner.stops_iff, Planner.Overloaded,
    Planner.Overloaded, totalPending_runDuty, planner]

/-- The program stops at some duties when there is a rebalance pass among them at which it would
have stopped before all of them. Otherwise it does one duty after another. -/
theorem foldlM_tryDuty (now : Nat) (state : TickReport × Plane) (duties : List Duty) :
    duties.foldlM (tryDuty now) state =
      if .adaptiveScheduling ∈ duties ∧ state.2.planner.stops state.2.registry = true then none
      else some (duties.foldl (runDuty now) state) := by
  induction duties generalizing state with
  | nil => rfl
  | cons duty rest ih =>
      rw [List.foldlM_cons, tryDuty]
      by_cases stopped : duty = .adaptiveScheduling ∧ state.2.planner.stops state.2.registry = true
      · rw [if_pos stopped, if_pos ⟨stopped.1 ▸ List.mem_cons_self, stopped.2⟩]
        rfl
      · have later : (Duty.adaptiveScheduling ∈ duty :: rest ∧
              state.2.planner.stops state.2.registry = true) ↔
            Duty.adaptiveScheduling ∈ rest ∧ state.2.planner.stops state.2.registry = true := by
          rw [List.mem_cons, or_and_right, or_iff_right]
          exact fun here => stopped ⟨here.1.symm, here.2⟩
        rw [if_neg stopped, if_congr later rfl rfl]
        refine (ih _).trans ?_
        rw [stops_runDuty, List.foldl_cons]

/-- A tick is what the program does, unless it stops. -/
theorem tick?_eq (plane : Plane) (time : Nat) :
    plane.tick? time =
      if plane.isShutDown = false ∧ .adaptiveScheduling ∈ (plane.timers.due time).1 ∧
          plane.planner.stops plane.registry = true then none
      else some (plane.tick time) := by
  unfold tick? tick
  cases plane.isShutDown with
  | true => rfl
  | false =>
      refine (foldlM_tryDuty time _ _).trans ?_
      simp only [true_and]
      rfl

variable {settings : Settings} {device : Device} {clock : Clock}

/-- Two orders of some duties come to the same: either the program stops in both, or it does all of
them. -/
structure Independent (now : Nat) (state : TickReport × Plane) (first second : List Duty) :
    Prop where
  /-- Reports and planes are the same but for the numbers of flows that were moved. -/
  agree : Option.Rel Agree (first.foldlM (tryDuty now) state) (second.foldlM (tryDuty now) state)
  /-- These are the same too unless health passes and aging change places. -/
  same : second.filter Duty.touchesFlows = first.filter Duty.touchesFlows →
    second.foldlM (tryDuty now) state = first.foldlM (tryDuty now) state
  /-- The program stops only where processors cannot be counted round. -/
  completes : state.2.planner.processors % wordSize32 ≠ 0 →
    first.foldlM (tryDuty now) state = some (first.foldl (runDuty now) state)

end Plane

end FlowSteer
