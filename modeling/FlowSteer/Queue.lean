import FlowSteer.Flow.Table

/-!
# Queues

One hardware-facing channel: its place, its health, its pending work, its counters and the flows
that it owns.
-/

namespace FlowSteer

/-- Health of a queue. -/
inductive QueueStatus where
  /-- Serving traffic. -/
  | active
  /-- Error counters raised, but below the failure threshold. -/
  | degraded
  /-- Out of service; takes in no flow. -/
  | failed
  /-- Flows moved away, waiting for the recovery window to pass. -/
  | recovering
deriving DecidableEq, Inhabited

namespace QueueStatus

/-- Name of the status. -/
def label : QueueStatus → String
  | active => "active"
  | degraded => "degraded"
  | failed => "failed"
  | recovering => "recovering"

/-- Every status, in the order of `code`. -/
def all : List QueueStatus := [active, degraded, failed, recovering]

/-- Number of the status. -/
def code : QueueStatus → Nat
  | active => 0
  | degraded => 1
  | failed => 2
  | recovering => 3

/-- The status with a given name. -/
def ofLabel? (text : String) : Option QueueStatus := all.find? (·.label == text)

end QueueStatus

/-- Traffic counters of a queue. -/
structure Counters where
  rxPackets : Nat := 0
  txPackets : Nat := 0
  rxBytes : Nat := 0
  txBytes : Nat := 0
  rxErrors : Nat := 0
  txErrors : Nat := 0
  rxDropped : Nat := 0
  txDropped : Nat := 0
deriving DecidableEq, Inhabited

namespace Counters

/-- Counts a packet. -/
def addPacket (counters : Counters) (bytes : Nat) : Direction → Counters
  | .rx => { counters with
      rxPackets := counters.rxPackets + 1, rxBytes := counters.rxBytes + bytes }
  | .tx => { counters with
      txPackets := counters.txPackets + 1, txBytes := counters.txBytes + bytes }

/-- Counts an error. -/
def addError (counters : Counters) : Direction → Counters
  | .rx => { counters with rxErrors := counters.rxErrors + 1 }
  | .tx => { counters with txErrors := counters.txErrors + 1 }

/-- Counts a dropped packet. -/
def addDrop (counters : Counters) : Direction → Counters
  | .rx => { counters with rxDropped := counters.rxDropped + 1 }
  | .tx => { counters with txDropped := counters.txDropped + 1 }

/-- Errors in both directions. -/
def errors (counters : Counters) : Nat := counters.rxErrors + counters.txErrors

/-- Errors in the worse direction. -/
def worstErrors (counters : Counters) : Nat := max counters.rxErrors counters.txErrors

/-- Sets the error counters back to zero. -/
def clearErrors (counters : Counters) : Counters :=
  { counters with rxErrors := 0, txErrors := 0 }

end Counters

/-- One hardware-facing channel. -/
structure Queue where
  node : NodeId
  /-- Processor to which the queue is bound. -/
  cpu : Option CpuId := none
  status : QueueStatus := .active
  /-- Submitted work that has not completed, modulo `2 ^ 64`. -/
  pending : Nat := 0
  counters : Counters := {}
  flows : FlowTable
deriving DecidableEq, Inhabited

/-- What a queue shows at one moment. -/
structure QueueView where
  queue : QueueId
  node : NodeId
  cpu : Option CpuId
  status : QueueStatus
  pending : Nat
  flowCount : Nat
  counters : Counters
deriving DecidableEq, Inhabited

namespace Queue

/-- A queue without traffic. -/
def fresh (node : NodeId) (maxFlows : Nat) : Queue where
  node
  flows := { capacity := maxFlows }

/-- What the queue shows under its id. -/
def view (queue : Queue) (id : QueueId) : QueueView where
  queue := id
  node := queue.node
  cpu := queue.cpu
  status := queue.status
  pending := queue.pending
  flowCount := queue.flows.size
  counters := queue.counters

/-- Is the queue out of service. -/
def isFailed (queue : Queue) : Bool := queue.status == .failed

/-- Adds pending work. -/
def addWork (queue : Queue) (work : Nat) : Queue :=
  { queue with pending := addWrapping queue.pending work }

/-- Zeroes the error counters and sets the status in one step. -/
def clearErrors (queue : Queue) (status : QueueStatus) : Queue :=
  { queue with counters := queue.counters.clearErrors, status }

end Queue

end FlowSteer
