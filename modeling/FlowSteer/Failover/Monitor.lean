import FlowSteer.Failover.Remap

/-!
# Health monitor

A pass compares the error counters of every queue with two thresholds: it handles failures,
degrades queues and restores them, and then puts queues back into service whose outage is over.
-/

namespace FlowSteer

/-- Verdict on the error counters of a queue. -/
inductive Verdict where
  | healthy
  /-- Above the lower threshold. -/
  | degraded
  /-- Above the failure threshold. -/
  | breached
deriving DecidableEq, Inhabited

/-- What one pass found and did. -/
structure CheckReport where
  /-- Number of queues looked at. -/
  checked : Nat := 0
  degraded : List QueueId := []
  restored : List QueueId := []
  failures : List RemapOutcome := []
  recovered : List QueueId := []
  /-- Number of failures that could not be handled. -/
  errors : Nat := 0
  /-- Was the pass left out because failover is off. -/
  skipped : Bool := false
deriving DecidableEq, Inhabited

namespace HealthSettings

/-- Verdict on numbers of errors. -/
def evaluate (settings : HealthSettings) (rxErrors txErrors : Nat) : Verdict :=
  let errors := max rxErrors txErrors
  if settings.failureThreshold.toNat < errors then .breached
  else if settings.degradedThreshold.toNat < errors then .degraded
  else .healthy

end HealthSettings

namespace Failover

/-! ## Recovery -/

/-- Is an outage over: without failures for longer than the recovery window. -/
def isOver (failover : Failover) (now : Nat) (outage : Outage) : Bool :=
  failover.settings.recoveryWindowMs.toNat < now - outage.lastFailure

/-- Puts queues back into service whose outage is over, and returns their ids in ascending
order. -/
def recover (failover : Failover) (now : Nat) : List QueueId × Failover :=
  let finished := failover.outages.filter fun _ outage => failover.isOver now outage
  (finished.ids,
    { failover with
      outages := failover.outages.filter fun _ outage => !failover.isOver now outage
      registry := { failover.registry with
        queues := failover.registry.queues.map fun id queue =>
          if finished.contains id then queue.clearErrors .active else queue } })

/-! ## The pass -/

/-- Changes the status of a queue if it is the expected one, and tells whether it was. -/
def switchStatus (failover : Failover) (id : QueueId) (expected new : QueueStatus) :
    Bool × Failover :=
  match failover.registry.updateStatus id fun view =>
      if view.status = expected then some new else none with
  | (.ok (some _), registry) => (true, { failover with registry })
  | _ => (false, failover)

/-- Looks at one queue by the counters it showed at the start of the pass. -/
def checkQueue (settings : HealthSettings) (now : Nat) (state : CheckReport × Failover)
    (view : QueueView) : CheckReport × Failover :=
  let report := { state.1 with checked := state.1.checked + 1 }
  match settings.evaluate view.counters.rxErrors view.counters.txErrors with
  | .breached =>
      match state.2.handleFailure view.queue now with
      | (.ok outcome, failover) =>
          ({ report with failures := report.failures ++ [outcome] }, failover)
      | (.error _, failover) => ({ report with errors := report.errors + 1 }, failover)
  -- Only the switch between `active` and `degraded` is made here; failed and recovering queues
  -- come back through recovery.
  | .degraded =>
      match state.2.switchStatus view.queue .active .degraded with
      | (true, failover) => ({ report with degraded := report.degraded ++ [view.queue] }, failover)
      | (false, failover) => (report, failover)
  | .healthy =>
      match state.2.switchStatus view.queue .degraded .active with
      | (true, failover) => ({ report with restored := report.restored ++ [view.queue] }, failover)
      | (false, failover) => (report, failover)

/-- One pass over all queues, then recovery. Failures happen at the time `now` of the clock;
outages are over or not at the time `recoveryTime`. -/
def checkHealth (failover : Failover) (settings : HealthSettings) (now recoveryTime : Nat) :
    CheckReport × Failover :=
  if !failover.settings.enabled then ({ skipped := true }, failover)
  else
    let (report, checked) :=
      failover.registry.views.foldl (checkQueue settings now) ({}, failover)
    let (recovered, restored) := checked.recover recoveryTime
    ({ report with recovered }, restored)

end Failover

end FlowSteer
