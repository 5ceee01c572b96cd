import FlowSteer.Word

/-!
# Ids and directions

Queues, flows, memory nodes and processors are named by natural numbers. A packet or a buffer
travels in one of two directions.
-/

namespace FlowSteer

/-- Stable index of a queue. -/
abbrev QueueId := Nat

/-- Id of a flow, unique within a device at any instant. -/
abbrev FlowId := Nat

/-- Index of a memory node. -/
abbrev NodeId := Nat

/-- Index of a logical processor. -/
abbrev CpuId := Nat

/-- Direction of traffic: from host to device, or from device to host. -/
inductive Direction where
  | tx
  | rx
deriving DecidableEq, Inhabited

namespace Direction

/-- Short name of the direction. -/
def label : Direction → String
  | tx => "tx"
  | rx => "rx"

/-- Both directions. -/
def all : List Direction := [tx, rx]

/-- The direction with a given short name. -/
def ofLabel? (text : String) : Option Direction := all.find? (·.label == text)

end Direction

end FlowSteer
