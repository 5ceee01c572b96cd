import FlowSteer.Registry.Aging
import FlowSteer.Registry.Migration
import FlowSteer.Registry.Traffic
import FlowSteer.Settings.Basic

/-!
# Failover

A queue that breaches its error threshold is taken out of service and its flows are moved to
another queue:

* a failure marks the queue failed and, below the cap on automatic remaps, moves its flows; the
  queue is then recovering;
* a failure of a recovering queue only prolongs its outage;
* each failure zeroes the error counters, so that the next one needs new errors;
* a queue without failures for longer than the recovery window is put back into service.

A remap by hand goes the same way but does not count against the cap. This module holds what
failover remembers: the open outages, the number of automatic remaps and the recent remaps.
-/

namespace FlowSteer

/-- Failures of a queue since it was last in service. -/
structure Outage where
  /-- Number of failures, as a 32-bit word. -/
  failures : Nat
  /-- Time of the latest failure, from which the recovery window counts. -/
  lastFailure : Nat
  /-- Time of the first failure. -/
  since : Nat
deriving DecidableEq, Inhabited

/-- How a remap came about. -/
inductive RemapCause where
  | automatic
  | manual
deriving DecidableEq, Inhabited

/-- Name of the cause. -/
def RemapCause.label : RemapCause → String
  | automatic => "automatic"
  | manual => "manual"

/-- A completed remap. -/
structure Remap where
  source : QueueId
  target : QueueId
  flowsMoved : Nat
  cause : RemapCause
  time : Nat
deriving DecidableEq, Inhabited

/-- Summary of failover. -/
structure FailoverSummary where
  failovers : Nat
  activeQueues : Nat
  degradedQueues : Nat
  failedQueues : Nat
  recoveringQueues : Nat
  /-- Failures of all open outages. -/
  totalFailures : Nat
  /-- Failures of the worst of them. -/
  mostFailures : Nat
  enabled : Bool
deriving DecidableEq, Inhabited

/-- The registry together with what failover remembers about it. -/
structure Failover where
  registry : Registry
  settings : FailoverSettings := {}
  /-- Open outages by queue. -/
  outages : IdMap Outage := .empty
  /-- Number of automatic remaps. -/
  failovers : Nat := 0
  /-- Recent remaps, oldest first. -/
  history : List Remap := []
deriving DecidableEq, Inhabited

namespace Failover

/-- Puts other settings in force. -/
def setSettings (failover : Failover) (settings : FailoverSettings) : Failover :=
  { failover with settings }

/-- Zeroes the error counters of a queue and sets its status. -/
def clearErrors (failover : Failover) (id : QueueId) (status : QueueStatus) : Failover :=
  { failover with registry := (failover.registry.clearErrors id status).2 }

/-- The outage of a queue after one more failure. -/
def afterFailure (failover : Failover) (id : QueueId) (now : Nat) : Outage :=
  match failover.outages.get? id with
  | none => { failures := 1, lastFailure := now, since := now }
  | some outage =>
      { outage with failures := (outage.failures + 1) % wordSize32, lastFailure := now }

/-- The outage of a queue after a remap by hand: failures are counted only when it opens. -/
def afterManual (failover : Failover) (id : QueueId) (now : Nat) : Outage :=
  match failover.outages.get? id with
  | none => { failures := 1, lastFailure := now, since := now }
  | some outage => { outage with lastFailure := now }

/-- Puts the outage of a queue on record. -/
def putOutage (failover : Failover) (id : QueueId) (outage : Outage) : Failover :=
  { failover with outages := failover.outages.insert id outage }

/-- Appends a remap to the history and keeps the most recent ones. -/
def pushHistory (failover : Failover) (remap : Remap) : Failover :=
  let history := failover.history ++ [remap]
  { failover with history := history.drop (history.length - failover.settings.historyLen.toNat) }

/-- Number of queues with a status. -/
def countStatus (failover : Failover) (status : QueueStatus) : Nat :=
  failover.registry.queues.values.countP (·.status == status)

/-- Summary of failover. -/
def summary (failover : Failover) : FailoverSummary where
  failovers := failover.failovers
  activeQueues := failover.countStatus .active
  degradedQueues := failover.countStatus .degraded
  failedQueues := failover.countStatus .failed
  recoveringQueues := failover.countStatus .recovering
  totalFailures := failover.outages.total (·.failures)
  mostFailures := (failover.outages.values.map (·.failures)).foldl max 0
  enabled := failover.settings.enabled

end Failover

end FlowSteer
