import FlowSteer.Failover.Basic

/-!
# Remaps

Moving the flows of a queue to another: after a failure, or by hand. A failed queue stays failed
and on record when the remap itself is refused.
-/

namespace FlowSteer

/-- What became of a failure or of a remap. -/
inductive RemapOutcome where
  /-- The flows moved and the source is recovering. -/
  | remapped (source target : QueueId) (flowsMoved : Nat)
  /-- The cap is reached: the failure is on record and nothing moved. -/
  | suppressed (queue : QueueId) (failures : Nat)
  /-- The queue was recovering already: its outage goes on. -/
  | refreshed (queue : QueueId) (failures : Nat)
deriving DecidableEq, Inhabited

namespace Failover

/-! ## The target -/

/-- The first of some queues with the fewest errors. -/
def fewestErrors : List QueueView → Option QueueView
  | [] => none
  | first :: rest => some <| rest.foldl (fun best next =>
      if next.counters.errors < best.counters.errors then next else best) first

/-- The queue to take over from another: of the other queues in service the one with the fewest
errors, and among equals the lowest id. -/
def replacement (failover : Failover) (exclude : QueueId) : Except ControlError QueueId :=
  match fewestErrors (failover.registry.views.filter fun view =>
      view.queue != exclude && view.status != .failed) with
  | some best => .ok best.queue
  | none => .error (.noReplacement exclude)

/-- The target of a remap: the one that is named, or else the best replacement. -/
def remapTarget (failover : Failover) (source : QueueId) :
    Option QueueId → Except ControlError QueueId
  | some target => .ok target
  | none => failover.replacement source

/-! ## Moving all flows -/

/-- Moves the flows of a queue to a target, or to the best replacement when none is named. -/
def remap (failover : Failover) (source : QueueId) (target? : Option QueueId)
    (cause : RemapCause) (now : Nat) : Except ControlError RemapOutcome × Failover :=
  match failover.remapTarget source target? with
  | .error error => (.error error, failover)
  | .ok target =>
      match failover.registry.moveAll source target with
      | (.error error, _) => (.error error, failover)
      | (.ok flowsMoved, registry) =>
          (.ok (.remapped source target flowsMoved),
            (({ failover with registry }).clearErrors source .recovering).pushHistory
              { source, target, flowsMoved, cause, time := now })

/-- Handles a failure of a queue. When the remap is refused the queue stays failed and on record,
and the refusal is returned. -/
def handleFailure (failover : Failover) (id : QueueId) (now : Nat) :
    Except ControlError RemapOutcome × Failover :=
  match failover.registry.queue id with
  | .error error => (.error error, failover)
  | .ok queue =>
      let outage := failover.afterFailure id now
      let noted := failover.putOutage id outage
      if queue.status = .recovering then
        -- Its flows have moved already: only the recovery window starts anew.
        (.ok (.refreshed id outage.failures), noted.clearErrors id .recovering)
      else
        let failed := noted.clearErrors id .failed
        if failed.settings.maxFailoverCount.toNat ≤ failed.failovers then
          (.ok (.suppressed id outage.failures), failed)
        else
          match failed.remap id none .automatic now with
          -- A refused remap does not count against the cap.
          | (.error error, left) => (.error error, left)
          | (.ok outcome, moved) => (.ok outcome, { moved with failovers := moved.failovers + 1 })

/-- Refuses a remap by hand that names a queue that is not there, or one queue twice. -/
def checkRemap (failover : Failover) (source : QueueId) (target? : Option QueueId) :
    Except ControlError Unit :=
  if target? = some source then .error (.sameQueue source)
  else
    match failover.registry.queue source with
    | .error error => .error error
    | .ok _ =>
        match target? with
        | none => .ok ()
        | some target => (failover.registry.queue target).map fun _ => ()

/-- Remaps a queue by hand. Once both queues are known to exist the source is failed and on
record, also when the remap itself is refused. -/
def remapByHand (failover : Failover) (source : QueueId) (target? : Option QueueId) (now : Nat) :
    Except ControlError RemapOutcome × Failover :=
  match failover.checkRemap source target? with
  | .error error => (.error error, failover)
  | .ok () =>
      let noted := failover.putOutage source (failover.afterManual source now)
      let failed := { noted with registry := (noted.registry.setStatus source .failed).2 }
      failed.remap source target? .manual now

/-! ## Placing one flow -/

/-- Moves one flow to a queue, wherever it is, and returns the queue it came from; nothing when
it is there already. -/
def placeFlow (failover : Failover) (flow : FlowId) (target : QueueId) :
    Except ControlError (Option QueueId) × Failover :=
  match failover.registry.queue target with
  | .error error => (.error error, failover)
  | .ok _ =>
      match failover.registry.holderOf flow with
      | none => (.error (.noSuchFlow flow target), failover)
      | some source =>
          if source = target then (.ok none, failover)
          else
            match failover.registry.moveFlow flow source target with
            | (.error error, _) => (.error error, failover)
            | (.ok (), registry) => (.ok (some source), { failover with registry })

end Failover

end FlowSteer
