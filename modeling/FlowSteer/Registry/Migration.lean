import FlowSteer.Registry.Basic

/-!
# Moving flows between queues

A move is refused before anything changes: when it leads nowhere, when a queue is missing, or
when the destination is out of service.
-/

namespace FlowSteer

namespace Registry

/-- Both ends of a move, once it is known to be allowed. -/
def moveEnds (registry : Registry) (source target : QueueId) :
    Except ControlError (Queue × Queue) := do
  if source = target then throw (.sameQueue source)
  let sourceQueue ← registry.queue source
  let targetQueue ← registry.queue target
  if targetQueue.isFailed then throw (.outOfService target)
  return (sourceQueue, targetQueue)

/-- Moves one flow from its queue to another. -/
def moveFlow (registry : Registry) (flow : FlowId) (source target : QueueId) :
    Except ControlError Unit × Registry :=
  match registry.moveEnds source target with
  | .error error => (.error error, registry)
  | .ok (sourceQueue, targetQueue) =>
      match sourceQueue.flows.get? flow with
      | none => (.error (.noSuchFlow flow source), registry)
      | some moving =>
          match targetQueue.flows.moveIn moving with
          | .error _ => (.error (.ownedElsewhere flow target), registry)
          | .ok table =>
              let left := { sourceQueue with flows := sourceQueue.flows.erase flow }
              let moved := (registry.putQueue source left).putQueue target
                { targetQueue with flows := table }
              (.ok (), { moved with directory := moved.directory.insert flow target })

/-- Moves every flow of a queue to another, whatever its limit on new flows, and returns how many
there were. -/
def moveAll (registry : Registry) (source target : QueueId) :
    Except ControlError Nat × Registry :=
  match registry.moveEnds source target with
  | .error error => (.error error, registry)
  | .ok (sourceQueue, targetQueue) =>
      let moving := sourceQueue.flows.entries
      let moved := (registry.putQueue source
          { sourceQueue with flows := sourceQueue.flows.clear }).putQueue target
        { targetQueue with flows := moving.foldl FlowTable.absorb targetQueue.flows }
      (.ok moving.length,
        { moved with
          directory := moved.directory.insertAll (moving.map fun flow => (flow.id, target)) })

end Registry

end FlowSteer
