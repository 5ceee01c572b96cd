import FlowSteer.ControlError
import FlowSteer.Settings.Basic

/-!
# Settings that cannot be run with

`Settings.problem?` names the first thing wrong with settings; `Settings.validate` refuses them
for it.
-/

namespace FlowSteer

/-- Something wrong with settings. -/
inductive SettingsProblem where
  | noQueues
  | tooManyQueues (count capacity : UInt64)
  | noNodesOrProcessors
  | nodeWithoutProcessor
  | noCompletionRoom
  | emptyCoalesceBounds (least greatest : UInt32)
  | overlappingWaterMarks
  | noCoalesceInterval
  | noHealthInterval
  | degradedAboveFailure
  | noSchedulingOrAgingInterval
  | noFlows
  | badBufferCount
  | badBufferSize
  /-- Something fixed at bring-up would change. -/
  | layoutChanged
deriving DecidableEq, Inhabited

namespace SettingsProblem

/-- Text of the problem. -/
def message : SettingsProblem → String
  | noQueues => "queue_count must be at least 1"
  | tooManyQueues count capacity => s!"queue_count {count} exceeds max_queues {capacity}"
  | noNodesOrProcessors => "numa_nodes and processor_count must be at least 1"
  | nodeWithoutProcessor => "every NUMA node needs at least one processor"
  | noCompletionRoom => "completion channel capacity and budget must be non-zero"
  | emptyCoalesceBounds least greatest => s!"coalesce bounds [{least}, {greatest}] are empty"
  | overlappingWaterMarks => "coalesce low_water must be below high_water"
  | noCoalesceInterval => "coalesce tick_interval_ms must be non-zero"
  | noHealthInterval => "health interval_ms must be non-zero"
  | degradedAboveFailure => "degraded_threshold must not exceed failure_threshold"
  | noSchedulingOrAgingInterval => "scheduling and aging intervals must be non-zero"
  | noFlows => "max_flows_per_queue must be non-zero"
  | badBufferCount => "buffers_per_node must be in 1..=u32::MAX"
  | badBufferSize => "buffer_size must be in 1..=u32::MAX"
  | layoutChanged =>
      "queue layout, pools and flow table capacity cannot change at runtime"

/-- The problem as an error of the control plane. -/
def error (problem : SettingsProblem) : ControlError := .badSettings problem.message

end SettingsProblem

/-- The first problem whose condition holds. -/
def firstProblem : List (Bool × SettingsProblem) → Option SettingsProblem
  | [] => none
  | (present, problem) :: rest => if present then some problem else firstProblem rest

namespace CoalesceSettings

/-- Problems with the bounds and marks of coalescing, each with its condition. -/
def problems (settings : CoalesceSettings) : List (Bool × SettingsProblem) :=
  [(settings.minUsecs == 0 || settings.maxUsecs < settings.minUsecs,
      .emptyCoalesceBounds settings.minUsecs settings.maxUsecs),
    (settings.highWater ≤ settings.lowWater, .overlappingWaterMarks),
    (settings.tickIntervalMs == 0, .noCoalesceInterval)]

/-- Refuses empty bounds, overlapping marks and an interval of zero. -/
def validate (settings : CoalesceSettings) : Except ControlError Unit :=
  match firstProblem settings.problems with
  | some problem => .error problem.error
  | none => .ok ()

end CoalesceSettings

namespace Settings

/-- Largest number of buffers of a node, and of bytes of a buffer. -/
def maxBuffers : UInt64 := 0xFFFFFFFF

/-- Problems with settings in the order in which they are looked for, each with its condition. -/
def problems (settings : Settings) : List (Bool × SettingsProblem) :=
  [(settings.queueCount == 0, .noQueues),
    (settings.maxQueues < settings.queueCount,
      .tooManyQueues settings.queueCount settings.maxQueues),
    (settings.numaNodes == 0 || settings.processorCount == 0, .noNodesOrProcessors),
    (settings.numaAware && settings.processorCount < settings.numaNodes, .nodeWithoutProcessor),
    (settings.completionChannelCapacity == 0 || settings.completionBudget == 0,
      .noCompletionRoom)] ++
  settings.coalesce.problems ++
  [(settings.health.intervalMs == 0, .noHealthInterval),
    (settings.health.failureThreshold < settings.health.degradedThreshold,
      .degradedAboveFailure),
    (settings.scheduling.intervalMs == 0 || settings.flows.agingIntervalMs == 0,
      .noSchedulingOrAgingInterval),
    (settings.flows.maxFlowsPerQueue == 0, .noFlows),
    (settings.pool.buffersPerNode == 0 || maxBuffers < settings.pool.buffersPerNode,
      .badBufferCount),
    (settings.pool.bufferSize == 0 || maxBuffers < settings.pool.bufferSize, .badBufferSize)]

/-- The first thing wrong with settings. -/
def problem? (settings : Settings) : Option SettingsProblem := firstProblem settings.problems

/-- Refuses settings that the control plane cannot run with. -/
def validate (settings : Settings) : Except ControlError Unit :=
  match settings.problem? with
  | some problem => .error problem.error
  | none => .ok ()

/-- Refuses new settings that are wrong, or that differ from the present ones in something fixed
at bring-up. -/
def validateChange (present new : Settings) : Except ControlError Unit :=
  match new.validate with
  | .error error => .error error
  | .ok () => if present.sameLayout new then .ok () else .error SettingsProblem.layoutChanged.error

end Settings

end FlowSteer
