import FlowSteer.Failover.Basic
import FlowSteer.Link.Basic

/-!
# Metrics

Read-only views of queues, flows and memory nodes, taken together at one moment.
-/

namespace FlowSteer

/-- View of one flow. -/
structure FlowMetrics where
  flow : FlowId
  queue : QueueId
  packets : Nat
  bytes : Nat
  averageLatency : Nat
  lastSeen : Nat
deriving DecidableEq, Inhabited

/-- Totals of one memory node. -/
structure NodeMetrics where
  node : NodeId
  rxPackets : Nat := 0
  txPackets : Nat := 0
  rxBytes : Nat := 0
  txBytes : Nat := 0
  errors : Nat := 0
deriving DecidableEq, Inhabited

/-- All views of a device. -/
structure DeviceMetrics where
  queues : List QueueView
  flows : List FlowMetrics
  nodes : List NodeMetrics
  coalesceUsecs : Nat
  totalPending : Nat
  failover : FailoverSummary
  datapath : LinkStats
  txLatency : HistogramView
deriving DecidableEq, Inhabited

namespace NodeMetrics

/-- Adds the counters of a queue. -/
def add (metrics : NodeMetrics) (counters : Counters) : NodeMetrics :=
  { metrics with
    rxPackets := metrics.rxPackets + counters.rxPackets
    txPackets := metrics.txPackets + counters.txPackets
    rxBytes := metrics.rxBytes + counters.rxBytes
    txBytes := metrics.txBytes + counters.txBytes
    errors := metrics.errors + counters.errors }

end NodeMetrics

/-- View of every flow, ascending by flow id. -/
def Registry.flowMetrics (registry : Registry) : List FlowMetrics :=
  registry.flows.map fun owned =>
    { flow := owned.flow.id
      queue := owned.queue
      packets := owned.flow.packets
      bytes := owned.flow.bytes
      averageLatency := owned.flow.averageLatency
      lastSeen := owned.flow.lastSeen }

/-- Totals of the nodes on which some queues live, ascending by node. -/
def nodeMetrics (queues : List QueueView) : List NodeMetrics :=
  (queues.foldl (fun nodes view =>
    let totals : NodeMetrics := (nodes.get? view.node).getD { node := view.node }
    nodes.insert view.node (totals.add view.counters)) (IdMap.empty : IdMap NodeMetrics)).values

end FlowSteer
