import FlowSteer.Clock
import FlowSteer.Coalescer
import FlowSteer.Failover.Monitor
import FlowSteer.Link.Drain
import FlowSteer.Metrics.Basic
import FlowSteer.Planner
import FlowSteer.RateLimits
import FlowSteer.Timers

/-!
# The control plane

One control plane owns one device. Bring-up checks the settings, registers the queues with their
memory nodes, attaches a completion vector to each, binds queues to processors, programs the
device and arms the timers of the periodic duties.
-/

namespace FlowSteer

/-- State of a control plane. -/
structure Plane where
  settings : Settings
  clock : Clock
  failover : Failover
  health : HealthSettings
  coalescer : Coalescer
  planner : Planner
  limits : RateLimits := .empty
  timers : Timers
  datapath : Datapath
  /-- Completions that a worker drains at most in one batch. -/
  workerBudget : Nat
  isShutDown : Bool := false
deriving Inhabited

namespace Plane

/-! ## Parts -/

/-- The registry of the plane. -/
def registry (plane : Plane) : Registry := plane.failover.registry

/-- Registry and datapath together. -/
def link (plane : Plane) : Link := { registry := plane.registry, datapath := plane.datapath }

/-- Puts registry and datapath in place. -/
def putLink (plane : Plane) (link : Link) : Plane :=
  { plane with
    failover := { plane.failover with registry := link.registry }
    datapath := link.datapath }

/-- Puts a device in place. -/
def putDevice (plane : Plane) (device : Device) : Plane :=
  { plane with datapath := { plane.datapath with device } }

/-! ## Bring-up -/

/-- Memory node of a queue of a new plane. -/
def homeNode (settings : Settings) (index : Nat) : NodeId :=
  if settings.numaAware then
    queueNode index settings.queueCount.toNat settings.numaNodes.toNat
  else 0

/-- Registers a queue of a new plane. Its id is its index as a 32-bit word. -/
def registerIndex (settings : Settings) (registry : Registry) (index : Nat) :
    Except ControlError Registry :=
  match registry.register (index % wordSize32) (homeNode settings index) with
  | (.error error, _) => .error error
  | (.ok (), registry) => .ok registry

/-- The registry of a new plane: all its queues, each on its memory node. -/
def newRegistry (settings : Settings) : Except ControlError Registry :=
  (List.range settings.queueCount.toNat).foldlM (registerIndex settings)
    (Registry.empty settings.maxQueues.toNat settings.flows.maxFlowsPerQueue.toNat)

/-- The timers of a new plane. -/
def newTimers (settings : Settings) (now : Nat) : Timers :=
  let empty : Timers := {}
  empty
    |>.schedule .healthCheck settings.health.intervalMs.toNat now
    |>.schedule .adaptiveScheduling settings.scheduling.intervalMs.toNat now
    |>.schedule .coalesce settings.coalesce.tickIntervalMs.toNat now
    |>.schedule .flowAging settings.flows.agingIntervalMs.toNat now

/-- The rules by which a new plane binds queues, given that there is room for the topology. -/
def newPlanner (settings : Settings) : Planner where
  topology := .uniform settings.numaNodes.toNat settings.processorCount.toNat
  numaAware := settings.numaAware
  settings := settings.scheduling

/-- The datapath of a new plane over a device, with all buffers free. -/
def newDatapath (settings : Settings) (device : Device) (listening : List QueueId) : Datapath where
  pools := .full (if settings.numaAware then settings.numaNodes.toNat else 1)
    settings.pool.buffersPerNode.toNat settings.pool.bufferSize.toNat
  device
  listening
  bufferSize := settings.pool.bufferSize.toNat

/-- Programs the processors of some bindings. -/
def pushAffinity (device : Device) (bindings : List Binding) : Device :=
  bindings.foldl (fun device binding => device.setAffinity binding.queue binding.target) device

/-- Programs the coalescing interval of some queues. -/
def pushInterval (device : Device) (queues : List QueueId) (usecs : Nat) : Device :=
  queues.foldl (fun device queue => device.setInterval queue usecs) device

/-- What can be made of valid settings without a device: coalescing and the registry. -/
def prepare (settings : Settings) : Except ControlError (Coalescer × Registry) := do
  let coalescer ← Coalescer.start settings.coalesce
  let registry ← newRegistry settings
  return (coalescer, registry)

/-- A new plane over a device on which its vectors are attached: queues are bound to processors,
the device is programmed and the timers are armed. -/
def assemble (settings : Settings) (clock : Clock) (coalescer : Coalescer) (registry : Registry)
    (attached : Device) : Plane :=
  let planner := newPlanner settings
  let (bindings, bound) := planner.bindAll registry
  let programmed :=
    pushInterval (pushAffinity attached bindings) registry.queueIds coalescer.interval
  { settings
    clock
    failover := { registry := bound, settings := settings.failover }
    health := settings.health
    coalescer
    planner
    timers := newTimers settings clock.now
    datapath := newDatapath settings programmed registry.queueIds
    workerBudget := settings.completionBudget.toNat }

/-- How a bring-up can fail. -/
inductive StartFailure where
  /-- It is refused, and the device is left in some state. -/
  | refused (error : ControlError) (device : Device)
  /-- The program stops for want of a table. -/
  | stopped
deriving Inhabited

/-- Stops the program where a table cannot be allocated. -/
def needTable (entries bytes : Nat) : Except StartFailure Unit :=
  if allocates entries bytes then .ok () else .error .stopped

/-- Attaches a vector to each of some queues. The channel of the first one comes before its
vector. -/
def attachVectors (settings : Settings) (device : Device) (queues : List QueueId) :
    Except StartFailure Device := do
  let events := settings.completionChannelCapacity.toNat
  needTable events Channel.slotBytes
  match device.attachAll events [] queues with
  | (.error error, left) => .error (.refused error left)
  | (.ok (), attached) => .ok attached

/-- Brings up a plane over a device. Three tables have lengths that valid settings do not bound: the
places of queues, the events of a channel, and the nodes of the topology. -/
def start (settings : Settings) (device : Device) (clock : Clock) : Except StartFailure Plane := do
  settings.validate.mapError (.refused · device)
  needTable settings.maxQueues.toNat Registry.slotBytes
  let (coalescer, registry) ← (prepare settings).mapError (.refused · device)
  let attached ← attachVectors settings device registry.queueIds
  needTable (max settings.numaNodes.toNat 1) Topology.nodeBytes
  return assemble settings clock coalescer registry attached

/-! ## Views -/

/-- All metrics at this moment. -/
def metrics (plane : Plane) : DeviceMetrics where
  queues := plane.registry.views
  flows := plane.registry.flowMetrics
  nodes := nodeMetrics plane.registry.views
  coalesceUsecs := plane.coalescer.interval
  totalPending := plane.registry.totalPending
  failover := plane.failover.summary
  datapath := plane.datapath.stats
  txLatency := plane.datapath.latency.view

/-- Earliest deadline of the timers. -/
def nextDeadline (plane : Plane) : Option Nat := plane.timers.nextDeadline

end Plane

end FlowSteer
