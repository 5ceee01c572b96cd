import FlowSteer.Plane.Basic

/-!
# Running the control plane

Periodic work, new settings at runtime, completion workers and shutdown.
-/

namespace FlowSteer

/-- What one tick did. -/
structure TickReport where
  /-- Duties done, in order. -/
  fired : List Duty := []
  health : Option CheckReport := none
  bindings : List Binding := []
  coalesce : Option IntervalStep := none
  expiredFlows : Nat := 0
deriving DecidableEq, Inhabited

/-- What a shutdown found. -/
structure ShutdownReport where
  vectorsReleased : Nat := 0
  completionsDrained : Nat := 0
  flowsDropped : Nat := 0
  /-- Buffers that the device still holds. -/
  buffersOutstanding : Nat := 0
deriving DecidableEq, Inhabited

namespace Plane

/-! ## Periodic work -/

/-- The health pass for a time. -/
def checkHealth (plane : Plane) (time : Nat) : CheckReport × Plane :=
  let (report, failover) := plane.failover.checkHealth plane.health plane.clock.now time
  (report, { plane with failover })

/-- The rebalance pass: bindings move on and the device is told. -/
def rebalance (plane : Plane) : List Binding × Plane :=
  let (bindings, registry) := plane.planner.rebalance plane.registry
  (bindings,
    { plane with
      failover := { plane.failover with registry }
      datapath := { plane.datapath with
        device := pushAffinity plane.datapath.device bindings } })

/-- Programs the present coalescing interval for every queue. -/
def pushCoalescing (plane : Plane) : Plane :=
  plane.putDevice
    (pushInterval plane.datapath.device plane.registry.queueIds plane.coalescer.interval)

/-- The coalescing pass: the interval follows the load and the device is told of a change. -/
def adaptCoalescing (plane : Plane) : IntervalStep × Plane :=
  let (step, coalescer) := plane.coalescer.tick plane.registry.totalPending
  let adapted := { plane with coalescer }
  (step, if step.changed then adapted.pushCoalescing else adapted)

/-- The aging pass for a time: idle flows are forgotten. -/
def ageFlows (plane : Plane) (time : Nat) : Nat × Plane :=
  let (expired, registry) :=
    plane.registry.forgetIdle time plane.settings.flows.idleTimeoutMs.toNat
  (expired, { plane with failover := { plane.failover with registry } })

/-- Does one duty, given that the program does not stop at it. -/
def runDuty (time : Nat) (state : TickReport × Plane) (duty : Duty) : TickReport × Plane :=
  let (report, plane) := state
  match duty with
  | .healthCheck =>
      let (health, plane) := plane.checkHealth time
      ({ report with health := some health }, plane)
  | .adaptiveScheduling =>
      let (bindings, plane) := plane.rebalance
      ({ report with bindings }, plane)
  | .coalesce =>
      let (step, plane) := plane.adaptCoalescing
      ({ report with coalesce := some step }, plane)
  | .flowAging =>
      let (expiredFlows, plane) := plane.ageFlows time
      ({ report with expiredFlows }, plane)

/-- Does one duty, unless the program stops at it. -/
def tryDuty (time : Nat) (state : TickReport × Plane) (duty : Duty) :
    Option (TickReport × Plane) :=
  if duty = .adaptiveScheduling ∧ state.2.planner.stops state.2.registry = true then none
  else some (runDuty time state duty)

/-- Does every duty that is due at a time, given that the program stops at none of them. A plane
that is shut down does nothing. -/
def tick (plane : Plane) (time : Nat) : TickReport × Plane :=
  if plane.isShutDown then ({}, plane)
  else
    let (fired, timers) := plane.timers.due time
    fired.foldl (runDuty time) ({ fired }, { plane with timers })

/-- Does every duty that is due at a time, unless the program stops at one of them. -/
def tick? (plane : Plane) (time : Nat) : Option (TickReport × Plane) :=
  if plane.isShutDown then some ({}, plane)
  else
    let (fired, timers) := plane.timers.due time
    fired.foldlM (tryDuty time) ({ fired }, { plane with timers })

/-! ## Settings at runtime -/

/-- The timers with the periods of new settings. -/
def rescheduled (plane : Plane) (settings : Settings) : Timers :=
  plane.timers
    |>.setPeriod .healthCheck settings.health.intervalMs.toNat plane.clock.now
    |>.setPeriod .adaptiveScheduling settings.scheduling.intervalMs.toNat plane.clock.now
    |>.setPeriod .coalesce settings.coalesce.tickIntervalMs.toNat plane.clock.now
    |>.setPeriod .flowAging settings.flows.agingIntervalMs.toNat plane.clock.now

/-- Puts new settings in force, unless they are wrong or would change what is fixed at
bring-up. -/
def updateSettings (plane : Plane) (settings : Settings) : Except ControlError Unit × Plane :=
  match plane.settings.validateChange settings with
  | .error error => (.error error, plane)
  | .ok () =>
      match plane.coalescer.setSettings settings.coalesce with
      | (.error error, _) => (.error error, plane)
      | (.ok (), coalescer) =>
          let updated := { plane with
            settings
            failover := plane.failover.setSettings settings.failover
            health := settings.health
            planner := plane.planner.setSettings settings.scheduling
            coalescer
            timers := plane.rescheduled settings }
          -- The device keeps what it was told last, so it hears only of a change.
          (.ok (),
            if coalescer.interval = plane.coalescer.interval then updated
            else updated.pushCoalescing)

/-- Sets the coalescing interval by hand, moved into its bounds, and tells the device. -/
def setInterval (plane : Plane) (usecs : Nat) : Plane :=
  { plane with coalescer := plane.coalescer.setInterval usecs }.pushCoalescing

/-! ## Workers and shutdown -/

/-- Starts a completion worker for each queue and stops them all. -/
def runWorkers (plane : Plane) : Plane :=
  plane.putLink <| plane.registry.queueIds.foldl
    (fun link queue => link.work queue plane.workerBudget plane.clock.now) plane.link

/-- Drains a queue for the last time and detaches its vector. -/
def closeQueue (now : Nat) (state : ShutdownReport × Link) (queue : QueueId) :
    ShutdownReport × Link :=
  let (report, link) := state
  let (drained, link) := link.drain queue none now
  let completed := match drained with
    | .ok drained => drained.completed
    | .error _ => 0
  ({ report with
      vectorsReleased := report.vectorsReleased + 1
      completionsDrained := report.completionsDrained + completed },
    { link with datapath := link.datapath.detach queue })

/-- Drains every queue, detaches its vector and forgets all flows. A second shutdown does
nothing. -/
def shutdown (plane : Plane) : ShutdownReport × Plane :=
  if plane.isShutDown then ({}, plane)
  else
    let (report, link) :=
      plane.registry.queueIds.foldl (closeQueue plane.clock.now) ({}, plane.link)
    let (flowsDropped, registry) := link.registry.forgetAll
    ({ report with flowsDropped, buffersOutstanding := link.datapath.pools.allocated },
      { plane.putLink { link with registry } with isShutDown := true })

end Plane

end FlowSteer
