import FlowSteer.Direction
import FlowSteer.Word

/-!
# Placement over memory nodes

Processors and queues are spread over memory nodes in contiguous blocks of equal size; the last
node takes what is left over.
-/

namespace FlowSteer

/-- Block of an index when a number of things is spread over some nodes. -/
def blockOf (index count nodes : Nat) : Nat :=
  min (index / max (count / max nodes 1) 1) (max nodes 1 - 1)

/-- Memory node of a queue, as a 32-bit number. -/
def queueNode (index count nodes : Nat) : NodeId := blockOf index count nodes % wordSize32

/-- Processors grouped by memory node. -/
structure Topology where
  nodes : List (List CpuId)
  processorCount : Nat
deriving DecidableEq, Inhabited

namespace Topology

/-- Some processors spread over some nodes, each as a 32-bit number, given that the table of the
nodes can be allocated. -/
def uniform (nodes processorCount : Nat) : Topology where
  nodes := (List.range (max nodes 1)).map fun node =>
    ((List.range processorCount).filter fun cpu => blockOf cpu processorCount nodes == node).map
      (· % wordSize32)
  processorCount

/-- Bytes of a node in that table. -/
def nodeBytes : Nat := 24

/-- Processors of a node, none for a node that does not exist. -/
def cpusOf (topology : Topology) (node : NodeId) : List CpuId := topology.nodes.getD node []

/-- Number of nodes. -/
def nodeCount (topology : Topology) : Nat := topology.nodes.length

end Topology

end FlowSteer
