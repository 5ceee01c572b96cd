import FlowSteer.Binary64
import FlowSteer.Json.Printer
import FlowSteer.Metrics.Basic

/-!
# Metrics for an exporter

The same metrics in three forms: tables with tabs, a JSON document, and gauges.
-/

namespace FlowSteer

namespace DeviceMetrics

/-! ## Tables -/

/-- One line of cells. -/
def tableLine (cells : List String) : String := "\t".intercalate cells ++ "\n"

/-- A table under a heading. -/
def table (heading : String) (rows : List (List String)) : String :=
  "# " ++ heading ++ "\n" ++ String.join (rows.map tableLine)

/-- All views as tables. -/
def renderText (metrics : DeviceMetrics) : String :=
  table "queues"
    (["queue_id", "numa_node", "cpu_id", "rx_packets", "tx_packets", "rx_bytes", "tx_bytes",
        "pending", "status"] ::
      metrics.queues.map fun view =>
        [view.queue.repr, view.node.repr, (view.cpu.map Nat.repr).getD "-",
          view.counters.rxPackets.repr, view.counters.txPackets.repr,
          view.counters.rxBytes.repr, view.counters.txBytes.repr,
          view.pending.repr, view.status.label]) ++
  table "flows"
    (["flow_id", "queue_id", "packets", "bytes", "avg_latency_ns", "last_seen_ms"] ::
      metrics.flows.map fun flow =>
        [flow.flow.repr, flow.queue.repr, flow.packets.repr, flow.bytes.repr,
          flow.averageLatency.repr, flow.lastSeen.repr]) ++
  table "numa"
    (["numa_node", "rx_packets", "tx_packets", "rx_bytes", "tx_bytes", "errors"] ::
      metrics.nodes.map fun node =>
        [node.node.repr, node.rxPackets.repr, node.txPackets.repr, node.rxBytes.repr,
          node.txBytes.repr, node.errors.repr]) ++
  table "device"
    [["coalesce_usecs", metrics.coalesceUsecs.repr],
      ["aggregate_pending", metrics.totalPending.repr],
      ["failover_count", metrics.failover.failovers.repr],
      ["failed_queues", metrics.failover.failedQueues.repr]]

/-! ## JSON -/

/-- The view of a queue as JSON. -/
def queueJson (view : QueueView) : Json := .ofMembers
  [("queue_id", .ofNat view.queue),
    ("numa_node", .ofNat view.node),
    ("cpu_id", .ofOption .ofNat view.cpu),
    ("rx_packets", .ofNat view.counters.rxPackets),
    ("tx_packets", .ofNat view.counters.txPackets),
    ("rx_bytes", .ofNat view.counters.rxBytes),
    ("tx_bytes", .ofNat view.counters.txBytes),
    ("rx_errors", .ofNat view.counters.rxErrors),
    ("tx_errors", .ofNat view.counters.txErrors),
    ("rx_dropped", .ofNat view.counters.rxDropped),
    ("tx_dropped", .ofNat view.counters.txDropped),
    ("pending", .ofNat view.pending),
    ("status", .ofLabel view.status.label),
    ("flow_count", .ofNat view.flowCount)]

/-- The view of a flow as JSON. -/
def flowJson (flow : FlowMetrics) : Json := .ofMembers
  [("flow_id", .ofNat flow.flow),
    ("queue_id", .ofNat flow.queue),
    ("packets", .ofNat flow.packets),
    ("bytes", .ofNat flow.bytes),
    ("avg_latency_ns", .ofNat flow.averageLatency),
    ("last_seen_ms", .ofNat flow.lastSeen)]

/-- The totals of a node as JSON. -/
def nodeJson (node : NodeMetrics) : Json := .ofMembers
  [("numa_node", .ofNat node.node),
    ("rx_packets", .ofNat node.rxPackets),
    ("tx_packets", .ofNat node.txPackets),
    ("rx_bytes", .ofNat node.rxBytes),
    ("tx_bytes", .ofNat node.txBytes),
    ("errors", .ofNat node.errors)]

/-- The summary of failover as JSON. -/
def failoverJson (summary : FailoverSummary) : Json := .ofMembers
  [("failover_count", .ofNat summary.failovers),
    ("active_queues", .ofNat summary.activeQueues),
    ("degraded_queues", .ofNat summary.degradedQueues),
    ("failed_queues", .ofNat summary.failedQueues),
    ("recovering_queues", .ofNat summary.recoveringQueues),
    ("total_failures", .ofNat summary.totalFailures),
    ("max_failure_count", .ofNat summary.mostFailures),
    ("enabled", .bool summary.enabled)]

/-- The counters of the packet path as JSON. -/
def datapathJson (stats : LinkStats) : Json := .ofMembers
  [("tx_packets", .ofNat stats.txPackets),
    ("tx_bytes", .ofNat stats.txBytes),
    ("tx_completions", .ofNat stats.txCompletions),
    ("rx_packets", .ofNat stats.rxPackets),
    ("rx_bytes", .ofNat stats.rxBytes),
    ("rx_posted", .ofNat stats.rxPosted),
    ("dropped", .ofNat stats.dropped),
    ("errors", .ofNat stats.errors),
    ("untracked", .ofNat stats.untracked),
    ("events", .ofNat stats.events),
    ("underflows", .ofNat stats.underflows)]

/-- A histogram as JSON. -/
def histogramJson (view : HistogramView) : Json := .ofMembers
  [("count", .ofNat view.count),
    ("sum_ns", .ofNat view.sum),
    ("min_ns", .ofNat view.least),
    ("max_ns", .ofNat view.greatest),
    ("p50_ns", .ofNat view.median),
    ("p99_ns", .ofNat view.percentile99)]

/-- All views as JSON. -/
def toJson (metrics : DeviceMetrics) : Json := .ofMembers
  [("queues", .array (metrics.queues.map queueJson)),
    ("flows", .array (metrics.flows.map flowJson)),
    ("numa", .array (metrics.nodes.map nodeJson)),
    ("coalesce_usecs", .ofNat metrics.coalesceUsecs),
    ("aggregate_pending", .ofNat metrics.totalPending),
    ("failover", failoverJson metrics.failover),
    ("datapath", datapathJson metrics.datapath),
    ("tx_latency", histogramJson metrics.txLatency)]

/-- All views as a JSON document. -/
def renderJson (metrics : DeviceMetrics) : String := String.ofList metrics.toJson.render

end DeviceMetrics

/-! ## Gauges -/

/-- A named value, perhaps of one queue or of one node. -/
structure Gauge where
  name : String
  label : Option (String × Nat) := none
  /-- The value as a double, which is a whole number. -/
  value : Nat
deriving DecidableEq, Inhabited

namespace Gauge

/-- A gauge of the whole device. -/
def ofDevice (name : String) (value : Nat) : Gauge := { name, value := Binary64.nearest value }

/-- A gauge of a queue. -/
def ofQueue (queue : QueueId) (name : String) (value : Nat) : Gauge :=
  { name, label := some ("queue", queue), value := Binary64.nearest value }

/-- A gauge of a node. -/
def ofNode (node : NodeId) (name : String) (value : Nat) : Gauge :=
  { name, label := some ("node", node), value := Binary64.nearest value }

end Gauge

namespace DeviceMetrics

/-- All gauges in the order in which they are set. -/
def gauges (metrics : DeviceMetrics) : List Gauge :=
  (metrics.queues.flatMap fun view =>
    [.ofQueue view.queue "mqnic_queue_rx_packets" view.counters.rxPackets,
      .ofQueue view.queue "mqnic_queue_tx_packets" view.counters.txPackets,
      .ofQueue view.queue "mqnic_queue_rx_bytes" view.counters.rxBytes,
      .ofQueue view.queue "mqnic_queue_tx_bytes" view.counters.txBytes,
      .ofQueue view.queue "mqnic_queue_errors" view.counters.errors,
      .ofQueue view.queue "mqnic_queue_pending" view.pending,
      .ofQueue view.queue "mqnic_queue_status" view.status.code]) ++
  (metrics.nodes.flatMap fun node =>
    [.ofNode node.node "mqnic_numa_rx_packets" node.rxPackets,
      .ofNode node.node "mqnic_numa_tx_packets" node.txPackets,
      .ofNode node.node "mqnic_numa_errors" node.errors]) ++
  [.ofDevice "mqnic_flows" metrics.flows.length,
    .ofDevice "mqnic_coalesce_usecs" metrics.coalesceUsecs,
    .ofDevice "mqnic_failover_count" metrics.failover.failovers,
    .ofDevice "mqnic_tx_latency_p99_ns" metrics.txLatency.percentile99]

end DeviceMetrics

end FlowSteer
