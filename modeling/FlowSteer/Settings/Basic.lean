/-!
# Settings

All settings of a control plane, with their defaults. Fields have the widths of the machine words
in which they are given, so that a settings file that does not fit is refused when it is read.
-/

namespace FlowSteer

/-- Bounds and marks of interrupt coalescing. -/
structure CoalesceSettings where
  /-- Interval at bring-up, in microseconds. -/
  initialUsecs : UInt32 := 64
  minUsecs : UInt32 := 8
  maxUsecs : UInt32 := 128
  /-- Pending work above this mark halves the interval. -/
  highWater : UInt64 := 1000
  /-- Pending work below this mark doubles the interval. -/
  lowWater : UInt64 := 100
  adaptive : Bool := true
  tickIntervalMs : UInt64 := 100
deriving DecidableEq, Inhabited

/-- Thresholds of the health monitor. -/
structure HealthSettings where
  intervalMs : UInt64 := 1000
  /-- More errors than this in one direction are a failure. -/
  failureThreshold : UInt64 := 1000
  /-- More errors than this in one direction degrade the queue. -/
  degradedThreshold : UInt64 := 500
deriving DecidableEq, Inhabited

/-- Rules of failover. -/
structure FailoverSettings where
  enabled : Bool := true
  /-- Number of automatic remaps for the life of the device. -/
  maxFailoverCount : UInt32 := 3
  /-- Time without failures after which a queue is put back into service. -/
  recoveryWindowMs : UInt64 := 5000
  /-- Number of remaps kept in the history. -/
  historyLen : UInt64 := 64
deriving DecidableEq, Inhabited

/-- Rules of the adaptive binding of queues to processors. -/
structure SchedulingSettings where
  adaptive : Bool := true
  /-- Pending work of all queues above this starts a rebalance. -/
  threshold : UInt64 := 1000
  intervalMs : UInt64 := 1000
deriving DecidableEq, Inhabited

/-- Size and aging of flow tables. -/
structure FlowSettings where
  maxFlowsPerQueue : UInt64 := 4096
  idleTimeoutMs : UInt64 := 60000
  agingIntervalMs : UInt64 := 1000
deriving DecidableEq, Inhabited

/-- Size of the buffer pools. -/
structure PoolSettings where
  buffersPerNode : UInt64 := 4096
  bufferSize : UInt64 := 2048
deriving DecidableEq, Inhabited

/-- All settings of a control plane. -/
structure Settings where
  /-- Queues brought up. -/
  queueCount : UInt64 := 32
  /-- Capacity of the registry. -/
  maxQueues : UInt64 := 32
  /-- Are queues and processors placed by memory node. -/
  numaAware : Bool := true
  numaNodes : UInt64 := 1
  processorCount : UInt64 := 4
  /-- Room for completion events of one queue. -/
  completionChannelCapacity : UInt64 := 1024
  /-- Completions drained at most in one pass of a worker. -/
  completionBudget : UInt64 := 64
  coalesce : CoalesceSettings := {}
  health : HealthSettings := {}
  failover : FailoverSettings := {}
  scheduling : SchedulingSettings := {}
  flows : FlowSettings := {}
  pool : PoolSettings := {}
deriving DecidableEq, Inhabited

namespace Settings

/-- Do two settings agree in all that is fixed at bring-up. -/
def sameLayout (left right : Settings) : Bool :=
  left.queueCount == right.queueCount &&
  left.maxQueues == right.maxQueues &&
  left.numaNodes == right.numaNodes &&
  left.numaAware == right.numaAware &&
  left.processorCount == right.processorCount &&
  left.completionChannelCapacity == right.completionChannelCapacity &&
  left.flows.maxFlowsPerQueue == right.flows.maxFlowsPerQueue &&
  left.pool == right.pool

end Settings

end FlowSteer
