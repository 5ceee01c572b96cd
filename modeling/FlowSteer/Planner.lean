import FlowSteer.Registry.Basic
import FlowSteer.Settings.Basic
import FlowSteer.Topology

/-!
# Binding queues to processors

At bring-up each queue gets a processor of its own memory node, in turn. Under load each queue
with more than its share of pending work moves on to the next processor.
-/

namespace FlowSteer

/-- A queue bound to a processor. -/
structure Binding where
  queue : QueueId
  /-- Processor before, if there was one. -/
  source : Option CpuId
  target : CpuId
deriving DecidableEq, Inhabited

/-- Rules by which queues are bound to processors. -/
structure Planner where
  topology : Topology
  numaAware : Bool
  settings : SchedulingSettings := {}
deriving DecidableEq, Inhabited

namespace Registry

/-- Binds queues to processors. -/
def bind (registry : Registry) (bindings : List Binding) : Registry :=
  { registry with
    queues := bindings.foldl (fun queues binding =>
      queues.modify binding.queue ({ · with cpu := some binding.target })) registry.queues }

end Registry

namespace Planner

/-- Puts other settings in force. -/
def setSettings (planner : Planner) (settings : SchedulingSettings) : Planner :=
  { planner with settings }

/-- Number by which processors are counted round: never zero. -/
def processors (planner : Planner) : Nat := max planner.topology.processorCount 1

/-- First bindings of some queues. `cursors` holds for each node how many of its processors were
given out, `index` the number of queues before. -/
def placements (planner : Planner) (cursors : List Nat) (index : Nat) :
    List (QueueId × Queue) → List Binding
  | [] => []
  | (id, queue) :: rest =>
      let cpus := planner.topology.cpusOf queue.node
      let cursor := cursors.getD queue.node 0
      match if planner.numaAware then cpus[cursor % cpus.length]? else none with
      | some cpu =>
          { queue := id, source := queue.cpu, target := cpu } ::
            planner.placements (cursors.modify queue.node (· + 1)) (index + 1) rest
      | none =>
          { queue := id
            source := queue.cpu
            target := index % planner.processors % wordSize32 } ::
            planner.placements cursors (index + 1) rest

/-- Binds every queue: to the processors of its node in turn, or to all processors in turn when
nodes do not matter or the node has none. -/
def bindAll (planner : Planner) (registry : Registry) : List Binding × Registry :=
  let bindings := planner.placements (List.replicate planner.topology.nodeCount 0) 0
    registry.queues.toList
  (bindings, registry.bind bindings)

/-- The queues that are to move on, each to the next processor: none unless the pending work of
all queues is above the threshold, and then those above their share of it. The processor comes from
a remainder by the number of processors, cut to 32 bits; where that is zero the program stops at the
first move (`stops`). Ids of queues are taken to be below the largest 32-bit word. -/
def moves (planner : Planner) (registry : Registry) : List Binding :=
  let threshold := planner.settings.threshold.toNat
  if !planner.settings.adaptive || registry.totalPending ≤ threshold then []
  else
    let share := threshold / registry.size
    (registry.queues.toList.filter (share < ·.2.pending)).map fun entry =>
      { queue := entry.1
        source := entry.2.cpu
        target := (entry.2.cpu.getD entry.1 + 1) % (planner.processors % wordSize32) }

/-- Does the program stop at a move: there is one to make, and it divides by zero. -/
def stops (planner : Planner) (registry : Registry) : Bool :=
  planner.processors % wordSize32 == 0 && !(planner.moves registry).isEmpty

/-- Moves queues on under load, unless the program stops. -/
def rebalance (planner : Planner) (registry : Registry) : List Binding × Registry :=
  let bindings := planner.moves registry
  (bindings, registry.bind bindings)

end Planner

end FlowSteer
