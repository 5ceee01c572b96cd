import FlowSteer.Proofs.Plane.Start
import FlowSteer.Proofs.Runs
import FlowSteer.Proofs.Timers.Deadlines

/-!
# Runs of a control plane

A plane is brought up with settings and then does one operation after another: its own, and those
on its parts, which are open to callers. This module names the operations and says what stays as
it was at bring-up through all of them (`BroughtUp`): the layout of the settings, the duties that
have a timer, the processors among which queues are bound, and the budget of the workers.
-/

namespace FlowSteer

/-- An operation of a control plane or of one of its parts. -/
inductive PlaneOp where
  /-- An operation on registry, failover, packet path, device, rates or clock. -/
  | part (op : Operation)
  | takeBuffer (node : NodeId)
  | returnBuffer (buffer : Buffer)
  | setHealth (settings : HealthSettings)
  | setScheduling (settings : SchedulingSettings)
  | setCoalescing (settings : CoalesceSettings)
  | adaptCoalescer (pending : Nat)
  | tick (time : Nat)
  | updateSettings (settings : Settings)
  | setInterval (usecs : Nat)
  | runWorkers
  | shutdown

namespace Plane

/-- The parts of the plane that operations of a system change. -/
def system (plane : Plane) : System where
  clock := plane.clock
  failover := plane.failover
  limits := plane.limits
  datapath := plane.datapath

/-- Puts these parts in place. -/
def putSystem (plane : Plane) (system : System) : Plane :=
  { plane with
    clock := system.clock
    failover := system.failover
    limits := system.limits
    datapath := system.datapath }

/-- Puts buffer pools in place. -/
def putPools (plane : Plane) (pools : Pools) : Plane :=
  { plane with datapath := { plane.datapath with pools } }

/-- The plane after an operation. -/
def step (plane : Plane) : PlaneOp → Plane
  | .part op => plane.putSystem (plane.system.step op)
  | .takeBuffer node => plane.putPools (plane.datapath.pools.alloc node).2
  | .returnBuffer buffer => plane.putPools (plane.datapath.pools.release buffer)
  | .setHealth settings => { plane with health := settings }
  | .setScheduling settings => { plane with planner := plane.planner.setSettings settings }
  | .setCoalescing settings =>
      { plane with coalescer := (plane.coalescer.setSettings settings).2 }
  | .adaptCoalescer pending => { plane with coalescer := (plane.coalescer.tick pending).2 }
  | .tick time => (plane.tick time).2
  | .updateSettings settings => (plane.updateSettings settings).2
  | .setInterval usecs => plane.setInterval usecs
  | .runWorkers => plane.runWorkers
  | .shutdown => plane.shutdown.2

/-- The plane after a sequence of operations. -/
def run (plane : Plane) (operations : List PlaneOp) : Plane := operations.foldl step plane

end Plane

/-- The settings without what can change at runtime. -/
def Settings.layout (settings : Settings) : Settings :=
  { settings with
    completionBudget := 0
    coalesce := {}
    health := {}
    failover := {}
    scheduling := {}
    flows := { maxFlowsPerQueue := settings.flows.maxFlowsPerQueue } }

theorem Settings.sameLayout_iff {left right : Settings} :
    left.sameLayout right = true ↔ left.layout = right.layout := by
  simp only [sameLayout, layout, Bool.and_eq_true, beq_iff_eq, Settings.mk.injEq,
    FlowSettings.mk.injEq, and_true, true_and]
  constructor
  · rintro ⟨⟨⟨⟨⟨⟨⟨queues, capacity⟩, nodes⟩, aware⟩, processors⟩, channel⟩, flows⟩, pool⟩
    exact ⟨queues, capacity, aware, nodes, processors, channel, flows, pool⟩
  · rintro ⟨queues, capacity, aware, nodes, processors, channel, flows, pool⟩
    exact ⟨⟨⟨⟨⟨⟨⟨queues, capacity⟩, nodes⟩, aware⟩, processors⟩, channel⟩, flows⟩, pool⟩

namespace Plane

/-- What is fixed at bring-up is as the settings of the bring-up made it. -/
structure BroughtUp (initial : Settings) (plane : Plane) : Prop where
  layout : plane.settings.layout = initial.layout
  duties : plane.timers.duties = Duty.order
  topology : plane.planner.topology = (newPlanner initial).topology
  numaAware : plane.planner.numaAware = initial.numaAware
  workerBudget : plane.workerBudget = initial.completionBudget.toNat

variable {initial settings : Settings} {plane before middle after : Plane}

theorem BroughtUp.of_start {device : Device} {clock : Clock}
    (started : start initial device clock = .ok plane) : BroughtUp initial plane := by
  obtain ⟨registry, made⟩ := started_of_start started
  rw [made.assembled]
  exact ⟨rfl, rfl, rfl, rfl, rfl⟩

/-! ## Operations that leave the settings alone -/

/-- The settings, the rules for binding, the duties and the budget are the same. -/
structure KeepsSettings (before after : Plane) : Prop where
  settings : after.settings = before.settings
  planner : after.planner = before.planner
  timers : after.timers = before.timers
  workerBudget : after.workerBudget = before.workerBudget

theorem KeepsSettings.trans (first : KeepsSettings before middle)
    (second : KeepsSettings middle after) : KeepsSettings before after :=
  ⟨second.settings.trans first.settings, second.planner.trans first.planner,
    second.timers.trans first.timers, second.workerBudget.trans first.workerBudget⟩

theorem keepsSettings_runDuty (time : Nat) (state : TickReport × Plane) (duty : Duty) :
    KeepsSettings state.2 (runDuty time state duty).2 := by
  cases duty with
  | healthCheck => exact ⟨rfl, rfl, rfl, rfl⟩
  | adaptiveScheduling => exact ⟨rfl, rfl, rfl, rfl⟩
  | flowAging => exact ⟨rfl, rfl, rfl, rfl⟩
  | coalesce =>
      show KeepsSettings state.2 (state.2.adaptCoalescing).2
      unfold adaptCoalescing
      simp only []
      split <;> exact ⟨rfl, rfl, rfl, rfl⟩

theorem keepsSettings_runDuties (time : Nat) (duties : List Duty) (state : TickReport × Plane) :
    KeepsSettings state.2 (duties.foldl (runDuty time) state).2 := by
  induction duties generalizing state with
  | nil => exact ⟨rfl, rfl, rfl, rfl⟩
  | cons duty rest ih => exact (keepsSettings_runDuty time state duty).trans (ih _)

namespace BroughtUp

theorem of_keeps (broughtUp : BroughtUp initial before) (same : KeepsSettings before after) :
    BroughtUp initial after where
  layout := by rw [same.settings, broughtUp.layout]
  duties := by rw [same.timers, broughtUp.duties]
  topology := by rw [same.planner, broughtUp.topology]
  numaAware := by rw [same.planner, broughtUp.numaAware]
  workerBudget := by rw [same.workerBudget, broughtUp.workerBudget]

theorem tick (broughtUp : BroughtUp initial plane) (time : Nat) :
    BroughtUp initial (plane.tick time).2 := by
  unfold Plane.tick
  split
  · exact broughtUp
  · have duties := plane.timers.duties_due time
    have fired : BroughtUp initial { plane with timers := (plane.timers.due time).2 } :=
      { broughtUp with duties := duties.trans broughtUp.duties }
    exact fired.of_keeps (keepsSettings_runDuties time _ (_, _))

theorem shutdown (broughtUp : BroughtUp initial plane) : BroughtUp initial plane.shutdown.2 := by
  unfold Plane.shutdown
  split
  · exact broughtUp
  · exact broughtUp.of_keeps ⟨rfl, rfl, rfl, rfl⟩

end BroughtUp

end Plane

end FlowSteer
