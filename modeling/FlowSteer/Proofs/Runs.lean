import FlowSteer.Clock
import FlowSteer.Failover.Monitor
import FlowSteer.Link.Drain
import FlowSteer.Planner
import FlowSteer.RateLimits

/-!
# Runs

What a control plane does is a sequence of operations on one state. This module names every
operation with its arguments, says what it does to the state, and defines the state that a
sequence of operations leads to from a fresh start.

* `RegistryOp`, `FailoverOp`, `LinkOp`, `DeviceOp`: operations of the parts, each with the part
  that it changes;
* `Operation`, `System.step`: all of them together with rates and the clock;
* `System.run_induct`: what a fresh system has and each operation keeps holds after every run;
* `System.Throughout`: a condition that each operation of a run meets where it starts;
* `System.Forward`: the clock does not go back.

An operation is refused or not as the part decides; a refused operation is a step all the same.
-/

namespace FlowSteer

/-! ## Operations of the parts -/

/-- An operation on the registry. -/
inductive RegistryOp where
  | register (id : QueueId) (node : NodeId)
  | record (id : QueueId) (flow : FlowId) (bytes : Nat) (direction : Direction)
  | recordLatency (flow : FlowId) (latency : Nat)
  | countError (id : QueueId) (direction : Direction)
  | countDrop (id : QueueId) (direction : Direction)
  | addWork (id : QueueId) (work : Nat)
  | finishWork (id : QueueId) (work : Nat)
  | setStatus (id : QueueId) (status : QueueStatus)
  | clearErrors (id : QueueId) (status : QueueStatus)
  | updateStatus (id : QueueId) (choose : QueueView → Option QueueStatus)
  | moveFlow (flow : FlowId) (source target : QueueId)
  | moveAll (source target : QueueId)
  | forgetIdle (time timeout : Nat)
  | forgetAll
  | bindAll (planner : Planner)
  | rebalance (planner : Planner)

namespace RegistryOp

/-- The registry after an operation at a time of the clock. -/
def apply (now : Nat) (registry : Registry) : RegistryOp → Registry
  | register id node => (registry.register id node).2
  | record id flow bytes direction => (registry.record id flow bytes direction now).2
  | recordLatency flow latency => (registry.recordLatency flow latency).2
  | countError id direction => (registry.countError id direction).2
  | countDrop id direction => (registry.countDrop id direction).2
  | addWork id work => (registry.addWork id work).2
  | finishWork id work => (registry.finishWork id work).2
  | setStatus id status => (registry.setStatus id status).2
  | clearErrors id status => (registry.clearErrors id status).2
  | updateStatus id choose => (registry.updateStatus id choose).2
  | moveFlow flow source target => (registry.moveFlow flow source target).2
  | moveAll source target => (registry.moveAll source target).2
  | forgetIdle time timeout => (registry.forgetIdle time timeout).2
  | forgetAll => registry.forgetAll.2
  | bindAll planner => (planner.bindAll registry).2
  | rebalance planner => (planner.rebalance registry).2

/-- Does the operation set statuses past failover. -/
def setsStatus : RegistryOp → Bool
  | setStatus .. | clearErrors .. | updateStatus .. => true
  | _ => false

/-- Does the operation change the account of pending work past the datapath. -/
def changesWork : RegistryOp → Bool
  | addWork .. | finishWork .. => true
  | _ => false

end RegistryOp

/-- An operation of failover. -/
inductive FailoverOp where
  | setSettings (settings : FailoverSettings)
  | handleFailure (id : QueueId)
  | remapByHand (source : QueueId) (target? : Option QueueId)
  | recover (time : Nat)
  | placeFlow (flow : FlowId) (target : QueueId)
  | checkHealth (settings : HealthSettings) (time : Nat)

/-- Failover after an operation at a time of the clock. -/
def FailoverOp.apply (now : Nat) (failover : Failover) : FailoverOp → Failover
  | setSettings settings => failover.setSettings settings
  | handleFailure id => (failover.handleFailure id now).2
  | remapByHand source target? => (failover.remapByHand source target? now).2
  | recover time => (failover.recover time).2
  | placeFlow flow target => (failover.placeFlow flow target).2
  | checkHealth settings time => (failover.checkHealth settings now time).2

/-- An operation of the packet path. -/
inductive LinkOp where
  | send (packet : Packet) (latency : Nat)
  | postReceive (id : QueueId) (number : Nat)
  | drain (id : QueueId) (budget : Option Nat)
  | takeEvent (id : QueueId)
  | work (id : QueueId) (budget : Nat)

/-- Registry and datapath after an operation at a time of the clock. -/
def LinkOp.apply (now : Nat) (link : Link) : LinkOp → Link
  | send packet latency => (link.send packet latency now).2
  | postReceive id number => (link.postReceive id number).2
  | drain id budget => (link.drain id budget now).2
  | takeEvent id => { link with datapath := (link.datapath.takeEvent id).2 }
  | work id budget => link.work id budget now

/-- An operation of the device by itself. -/
inductive DeviceOp where
  | complete (id : QueueId) (status : CompletionStatus)
  | receive (id : QueueId) (flow : FlowId) (len : Nat)
  | completeSends (id : QueueId)
  | injectFaults (count : Nat)
  | attach (id : QueueId) (capacity : Nat)
  | detach (id : QueueId)
  | setAffinity (id : QueueId) (cpu : CpuId)
  | setInterval (id : QueueId) (usecs : Nat)

/-- The device after an operation. -/
def DeviceOp.apply (device : Device) : DeviceOp → Device
  | complete id status => (device.complete id status).2
  | receive id flow len => (device.receive id flow len).2
  | completeSends id => (device.completeSends id).2
  | injectFaults count => device.injectFaults count
  | attach id capacity => (device.attach id capacity).2
  | detach id => device.detach id
  | setAffinity id cpu => device.setAffinity id cpu
  | setInterval id usecs => device.setInterval id usecs

/-- The channels without a vector after an operation of the device. -/
def DeviceOp.parted (datapath : Datapath) : DeviceOp → IdMap Channel
  | detach id => datapath.partedFrom id
  | _ => datapath.parted

/-! ## The system -/

/-- The state that operations change. -/
structure System where
  clock : Clock := {}
  failover : Failover
  limits : RateLimits := .empty
  datapath : Datapath
deriving DecidableEq, Inhabited

/-- An operation of the system. -/
inductive Operation where
  | registry (op : RegistryOp)
  | failover (op : FailoverOp)
  | link (op : LinkOp)
  | device (op : DeviceOp)
  | applyRate (request : RateRequest)
  | applyLine (line : List Char)
  | clearRate (flow : FlowId)
  | advance (millis : Nat)
  | advanceMicros (micros : Nat)
  | setClock (time : Nat)

namespace Operation

/-- Does the operation set statuses past failover. -/
def setsStatus : Operation → Bool
  | registry op => op.setsStatus
  | _ => false

/-- Does the operation change the account of pending work past the datapath. -/
def changesWork : Operation → Bool
  | registry op => op.changesWork
  | _ => false

end Operation

/-- What a fresh system is made with. -/
structure Blueprint where
  /-- Queue ids lie below this number. -/
  capacity : Nat
  /-- Limit on new flows for each queue. -/
  maxFlows : Nat
  failover : FailoverSettings := {}
  nodes : Nat := 1
  buffersPerNode : Nat
  /-- Bytes of each pooled buffer. -/
  pooledSize : Nat := 2048
  /-- Room of a receive buffer. -/
  bufferSize : Nat := 2048
  ringCapacity : Nat
  listening : List QueueId := []
  /-- Time of the clock at the start. -/
  start : Nat := 0
deriving DecidableEq, Inhabited

namespace System

/-- The registry of the system. -/
def registry (system : System) : Registry := system.failover.registry

/-- Registry and datapath together. -/
def link (system : System) : Link := { registry := system.registry, datapath := system.datapath }

/-- A system without queues, all buffers free and the device idle. -/
def fresh (blueprint : Blueprint) : System where
  clock := { now := blueprint.start }
  failover := {
    registry := .empty blueprint.capacity blueprint.maxFlows
    settings := blueprint.failover }
  datapath := {
    pools := .full blueprint.nodes blueprint.buffersPerNode blueprint.pooledSize
    device := { ringCapacity := blueprint.ringCapacity }
    listening := blueprint.listening
    bufferSize := blueprint.bufferSize }

/-- Puts registry and datapath in place. -/
def putLink (system : System) (link : Link) : System :=
  { system with
    failover := { system.failover with registry := link.registry }
    datapath := link.datapath }

/-- Puts rates and failover in place. -/
def putRates (system : System) (limits : RateLimits) (failover : Failover) : System :=
  { system with limits, failover }

/-- The system after an operation. -/
def step (system : System) : Operation → System
  | .registry op =>
      { system with
        failover := { system.failover with
          registry := op.apply system.clock.now system.registry } }
  | .failover op => { system with failover := op.apply system.clock.now system.failover }
  | .link op => system.putLink (op.apply system.clock.now system.link)
  | .device op =>
      { system with
        datapath := { system.datapath with
          device := op.apply system.datapath.device
          parted := op.parted system.datapath } }
  | .applyRate request =>
      let (_, limits, failover) := system.limits.apply system.failover request
      system.putRates limits failover
  | .applyLine line =>
      let (_, limits, failover) := system.limits.applyLine system.failover line
      system.putRates limits failover
  | .clearRate flow => { system with limits := system.limits.erase flow }
  | .advance millis => { system with clock := system.clock.advance millis }
  | .advanceMicros micros => { system with clock := system.clock.advanceMicros micros }
  | .setClock time => { system with clock := system.clock.set time }

/-- The system after a sequence of operations. -/
def run (system : System) (operations : List Operation) : System := operations.foldl step system

@[simp] theorem run_cons (system : System) (operation : Operation)
    (operations : List Operation) :
    system.run (operation :: operations) = (system.step operation).run operations := rfl

theorem run_append (system : System) (first second : List Operation) :
    system.run (first ++ second) = (system.run first).run second :=
  List.foldl_append

theorem run_concat (system : System) (operations : List Operation) (operation : Operation) :
    system.run (operations ++ [operation]) = (system.run operations).step operation :=
  system.run_append operations [operation]

/-- What holds at the start and is kept by each operation of some kind holds after every run of
such operations. -/
theorem run_induct {holds : System → Prop} {allowed : Operation → Prop}
    (kept : ∀ system operation, allowed operation → holds system →
      holds (system.step operation))
    {operations : List Operation} (all : ∀ operation ∈ operations, allowed operation)
    {system : System} (start : holds system) : holds (system.run operations) := by
  induction operations generalizing system with
  | nil => exact start
  | cons operation rest ih =>
      rw [run_cons]
      apply ih
      · intro later member
        exact all later (List.mem_cons_of_mem _ member)
      · exact kept system operation (all operation List.mem_cons_self) start

/-- Each operation of a run meets a condition on the state in which it starts. -/
def Throughout (condition : System → Operation → Prop) (system : System) : List Operation → Prop
  | [] => True
  | operation :: rest =>
      condition system operation ∧ (system.step operation).Throughout condition rest

instance decidableThroughout {condition : System → Operation → Prop}
    [∀ system operation, Decidable (condition system operation)] :
    (system : System) → (operations : List Operation) →
      Decidable (system.Throughout condition operations)
  | _, [] => isTrue trivial
  | system, operation :: rest =>
      @instDecidableAnd _ _ inferInstance (decidableThroughout (system.step operation) rest)

theorem throughout_append {condition : System → Operation → Prop} {system : System}
    {first second : List Operation} :
    system.Throughout condition (first ++ second) ↔
      system.Throughout condition first ∧ (system.run first).Throughout condition second := by
  induction first generalizing system with
  | nil => simp [Throughout, run]
  | cons operation rest ih => rw [List.cons_append, Throughout, Throughout, ih, and_assoc, run_cons]

/-- The clock does not go back with an operation. It can only where an advance runs over. -/
def Forward (system : System) (operation : Operation) : Prop :=
  system.clock.now ≤ (system.step operation).clock.now

instance (system : System) (operation : Operation) : Decidable (system.Forward operation) :=
  Nat.decLe _ _

theorem now_le_run {system : System} {operations : List Operation}
    (forward : system.Throughout Forward operations) :
    system.clock.now ≤ (system.run operations).clock.now := by
  induction operations generalizing system with
  | nil => exact Nat.le_refl _
  | cons operation rest ih => exact Nat.le_trans forward.1 (ih forward.2)

end System

end FlowSteer
