import FlowSteer.Json.Fields
import FlowSteer.Json.Printer
import FlowSteer.Json.Reader
import FlowSteer.Settings.Problem

/-!
# Settings files

Settings are written as a JSON object of all their fields. A file that is read may leave fields
out, which then have their defaults, and may hold members that are no field.
-/

namespace FlowSteer

namespace CoalesceSettings

/-- Writes the settings with all their fields. -/
def toJson (settings : CoalesceSettings) : Json := .ofMembers
  [("initial_usecs", .ofNat settings.initialUsecs.toNat),
    ("min_usecs", .ofNat settings.minUsecs.toNat),
    ("max_usecs", .ofNat settings.maxUsecs.toNat),
    ("high_water", .ofNat settings.highWater.toNat),
    ("low_water", .ofNat settings.lowWater.toNat),
    ("adaptive", .bool settings.adaptive),
    ("tick_interval_ms", .ofNat settings.tickIntervalMs.toNat)]

/-- Reads settings, taking the default of what is left out. -/
def ofJson? (value : Json) : Option CoalesceSettings := do
  let standard : CoalesceSettings := {}
  let fields ← value.fields? 7
  return {
    initialUsecs := ← fields.withDefault 0 ["initial_usecs"] Json.uint32? standard.initialUsecs
    minUsecs := ← fields.withDefault 1 ["min_usecs"] Json.uint32? standard.minUsecs
    maxUsecs := ← fields.withDefault 2 ["max_usecs"] Json.uint32? standard.maxUsecs
    highWater := ← fields.withDefault 3 ["high_water"] Json.uint64? standard.highWater
    lowWater := ← fields.withDefault 4 ["low_water"] Json.uint64? standard.lowWater
    adaptive := ← fields.withDefault 5 ["adaptive"] Json.bool? standard.adaptive
    tickIntervalMs :=
      ← fields.withDefault 6 ["tick_interval_ms"] Json.uint64? standard.tickIntervalMs }

end CoalesceSettings

namespace HealthSettings

/-- Writes the settings with all their fields. -/
def toJson (settings : HealthSettings) : Json := .ofMembers
  [("interval_ms", .ofNat settings.intervalMs.toNat),
    ("failure_threshold", .ofNat settings.failureThreshold.toNat),
    ("degraded_threshold", .ofNat settings.degradedThreshold.toNat)]

/-- Reads settings, taking the default of what is left out. -/
def ofJson? (value : Json) : Option HealthSettings := do
  let standard : HealthSettings := {}
  let fields ← value.fields? 3
  return {
    intervalMs := ← fields.withDefault 0 ["interval_ms"] Json.uint64? standard.intervalMs
    failureThreshold :=
      ← fields.withDefault 1 ["failure_threshold"] Json.uint64? standard.failureThreshold
    degradedThreshold :=
      ← fields.withDefault 2 ["degraded_threshold"] Json.uint64? standard.degradedThreshold }

end HealthSettings

namespace FailoverSettings

/-- Writes the settings with all their fields. -/
def toJson (settings : FailoverSettings) : Json := .ofMembers
  [("enabled", .bool settings.enabled),
    ("max_failover_count", .ofNat settings.maxFailoverCount.toNat),
    ("recovery_window_ms", .ofNat settings.recoveryWindowMs.toNat),
    ("history_len", .ofNat settings.historyLen.toNat)]

/-- Reads settings, taking the default of what is left out. -/
def ofJson? (value : Json) : Option FailoverSettings := do
  let standard : FailoverSettings := {}
  let fields ← value.fields? 4
  return {
    enabled := ← fields.withDefault 0 ["enabled"] Json.bool? standard.enabled
    maxFailoverCount :=
      ← fields.withDefault 1 ["max_failover_count"] Json.uint32? standard.maxFailoverCount
    recoveryWindowMs :=
      ← fields.withDefault 2 ["recovery_window_ms"] Json.uint64? standard.recoveryWindowMs
    historyLen := ← fields.withDefault 3 ["history_len"] Json.uint64? standard.historyLen }

end FailoverSettings

namespace SchedulingSettings

/-- Writes the settings with all their fields. -/
def toJson (settings : SchedulingSettings) : Json := .ofMembers
  [("adaptive", .bool settings.adaptive),
    ("threshold", .ofNat settings.threshold.toNat),
    ("interval_ms", .ofNat settings.intervalMs.toNat)]

/-- Reads settings, taking the default of what is left out. -/
def ofJson? (value : Json) : Option SchedulingSettings := do
  let standard : SchedulingSettings := {}
  let fields ← value.fields? 3
  return {
    adaptive := ← fields.withDefault 0 ["adaptive"] Json.bool? standard.adaptive
    threshold := ← fields.withDefault 1 ["threshold"] Json.uint64? standard.threshold
    intervalMs := ← fields.withDefault 2 ["interval_ms"] Json.uint64? standard.intervalMs }

end SchedulingSettings

namespace FlowSettings

/-- Writes the settings with all their fields. -/
def toJson (settings : FlowSettings) : Json := .ofMembers
  [("max_flows_per_queue", .ofNat settings.maxFlowsPerQueue.toNat),
    ("idle_timeout_ms", .ofNat settings.idleTimeoutMs.toNat),
    ("aging_interval_ms", .ofNat settings.agingIntervalMs.toNat)]

/-- Reads settings, taking the default of what is left out. -/
def ofJson? (value : Json) : Option FlowSettings := do
  let standard : FlowSettings := {}
  let fields ← value.fields? 3
  return {
    maxFlowsPerQueue :=
      ← fields.withDefault 0 ["max_flows_per_queue"] Json.uint64? standard.maxFlowsPerQueue
    idleTimeoutMs := ← fields.withDefault 1 ["idle_timeout_ms"] Json.uint64? standard.idleTimeoutMs
    agingIntervalMs :=
      ← fields.withDefault 2 ["aging_interval_ms"] Json.uint64? standard.agingIntervalMs }

end FlowSettings

namespace PoolSettings

/-- Writes the settings with all their fields. -/
def toJson (settings : PoolSettings) : Json := .ofMembers
  [("buffers_per_node", .ofNat settings.buffersPerNode.toNat),
    ("buffer_size", .ofNat settings.bufferSize.toNat)]

/-- Reads settings, taking the default of what is left out. -/
def ofJson? (value : Json) : Option PoolSettings := do
  let standard : PoolSettings := {}
  let fields ← value.fields? 2
  return {
    buffersPerNode :=
      ← fields.withDefault 0 ["buffers_per_node"] Json.uint64? standard.buffersPerNode
    bufferSize := ← fields.withDefault 1 ["buffer_size"] Json.uint64? standard.bufferSize }

end PoolSettings

namespace Settings

/-- Writes the settings with all their fields. -/
def toJson (settings : Settings) : Json := .ofMembers
  [("queue_count", .ofNat settings.queueCount.toNat),
    ("max_queues", .ofNat settings.maxQueues.toNat),
    ("numa_aware", .bool settings.numaAware),
    ("numa_nodes", .ofNat settings.numaNodes.toNat),
    ("processor_count", .ofNat settings.processorCount.toNat),
    ("completion_channel_capacity", .ofNat settings.completionChannelCapacity.toNat),
    ("completion_budget", .ofNat settings.completionBudget.toNat),
    ("coalesce", settings.coalesce.toJson),
    ("health", settings.health.toJson),
    ("failover", settings.failover.toJson),
    ("scheduling", settings.scheduling.toJson),
    ("flows", settings.flows.toJson),
    ("pool", settings.pool.toJson)]

/-- Reads settings, taking the default of what is left out, also inside a section. -/
def ofJson? (value : Json) : Option Settings := do
  let standard : Settings := {}
  let fields ← value.fields? 13
  return {
    queueCount := ← fields.withDefault 0 ["queue_count"] Json.uint64? standard.queueCount
    maxQueues := ← fields.withDefault 1 ["max_queues"] Json.uint64? standard.maxQueues
    numaAware := ← fields.withDefault 2 ["numa_aware"] Json.bool? standard.numaAware
    numaNodes := ← fields.withDefault 3 ["numa_nodes"] Json.uint64? standard.numaNodes
    processorCount :=
      ← fields.withDefault 4 ["processor_count"] Json.uint64? standard.processorCount
    completionChannelCapacity :=
      ← fields.withDefault 5 ["completion_channel_capacity"] Json.uint64?
        standard.completionChannelCapacity
    completionBudget :=
      ← fields.withDefault 6 ["completion_budget"] Json.uint64? standard.completionBudget
    coalesce := ← fields.withDefault 7 ["coalesce"] CoalesceSettings.ofJson? standard.coalesce
    health := ← fields.withDefault 8 ["health"] HealthSettings.ofJson? standard.health
    failover := ← fields.withDefault 9 ["failover"] FailoverSettings.ofJson? standard.failover
    scheduling :=
      ← fields.withDefault 10 ["scheduling"] SchedulingSettings.ofJson? standard.scheduling
    flows := ← fields.withDefault 11 ["flows"] FlowSettings.ofJson? standard.flows
    pool := ← fields.withDefault 12 ["pool"] PoolSettings.ofJson? standard.pool }

/-- The text of a settings file. -/
def save (settings : Settings) : List Char := settings.toJson.render

/-- Reads settings out of a text and refuses those that cannot be run with. -/
def load (text : List Char) : Except ControlError Settings :=
  match (Json.parse? text).bind ofJson? with
  | none => .error (.malformed "not a settings file")
  | some settings =>
      match settings.validate with
      | .error error => .error error
      | .ok () => .ok settings

/-- Reads settings out of the bytes of a file, if there is one. -/
def loadFile (bytes : Option ByteArray) : Except ControlError Settings :=
  match bytes.bind String.fromUTF8? with
  | none => .error (.unreadable "no readable file")
  | some text => load text.toList

end Settings

end FlowSteer
