import FlowSteer.Registry.Basic

/-!
# Traffic on the registry

What the packet path asks of the registry: choosing a queue for a flow, counting packets, errors
and drops, and keeping the account of pending work.
-/

namespace FlowSteer

namespace Registry

/-- Registered queues in cyclic order: from an id upward, then the ids below it. -/
def cycleFrom (registry : Registry) (start : QueueId) : List (QueueId × Queue) :=
  registry.queues.toList.filter (start ≤ ·.1) ++ registry.queues.toList.filter (·.1 < start)

/-- Chooses the queue of a flow: its owner, or else the first queue in service going upward
cyclically from the flow id modulo the number of queues. -/
def steer (registry : Registry) (flow : FlowId) : Except ControlError QueueId :=
  match registry.ownerOf flow with
  | some owner => .ok owner
  | none =>
      if registry.isEmpty then .error (.noSuchQueue 0)
      else
        let start := flow % registry.size
        match (registry.cycleFrom start).find? (!·.2.isFailed) with
        | some entry => .ok entry.1
        | none => .error (.outOfService start)

/-- Takes a new flow into the table of a queue and counts its first packet. -/
def accept (registry : Registry) (id : QueueId) (queue : Queue) (flow : FlowId)
    (bytes : Nat) (direction : Direction) (now : Nat) : Except ControlError Registry :=
  match queue.flows.addNew flow now with
  | .error _ => .error (.tableFull id)
  | .ok table => .ok (registry.putQueue id
      { queue with
        flows := table.modify flow (·.addPacket bytes now)
        counters := queue.counters.addPacket bytes direction })

/-- Counts a packet on a queue. A flow that the queue owns is counted whatever the status of the
queue; a new flow is taken in unless the queue is out of service, its table is full, or another
queue owns the flow. -/
def record (registry : Registry) (id : QueueId) (flow : FlowId) (bytes : Nat)
    (direction : Direction) (now : Nat) : Except ControlError Unit × Registry :=
  match registry.queue id with
  | .error error => (.error error, registry)
  | .ok queue =>
      if queue.flows.contains flow then
        -- A known flow is counted even while the queue is out of service.
        (.ok (), registry.putQueue id
          { queue with
            flows := queue.flows.modify flow (·.addPacket bytes now)
            counters := queue.counters.addPacket bytes direction })
      else if queue.isFailed then (.error (.outOfService id), registry)
      else
        match registry.ownerOf flow with
        | some owner =>
            if owner ≠ id then (.error (.ownedElsewhere flow owner), registry)
            else
              match registry.accept id queue flow bytes direction now with
              | .error error => (.error error, registry)
              | .ok accepted => (.ok (), accepted)
        | none =>
            match registry.accept id queue flow bytes direction now with
            | .error error => (.error error, registry)
            | .ok accepted =>
                (.ok (), { accepted with directory := accepted.directory.insert flow id })

/-- Queue id shown for a flow that no queue owns. -/
def nowhere : QueueId := wordSize32 - 1

/-- Adds a latency sample to a flow, wherever it lives. -/
def recordLatency (registry : Registry) (flow : FlowId) (latency : Nat) :
    Except ControlError Unit × Registry :=
  match registry.ownerOf flow with
  | none => (.error (.noSuchFlow flow nowhere), registry)
  | some owner =>
      match registry.queue owner with
      | .error error => (.error error, registry)
      | .ok queue =>
          if queue.flows.contains flow then
            (.ok (), registry.putQueue owner
              { queue with flows := queue.flows.modify flow (·.addLatency latency) })
          else (.error (.noSuchFlow flow owner), registry)

/-- Counts an error on a queue. -/
def countError (registry : Registry) (id : QueueId) (direction : Direction) :
    Except ControlError Unit × Registry :=
  registry.updateQueue id fun queue =>
    { queue with counters := queue.counters.addError direction }

/-- Counts a dropped packet on a queue. -/
def countDrop (registry : Registry) (id : QueueId) (direction : Direction) :
    Except ControlError Unit × Registry :=
  registry.updateQueue id fun queue =>
    { queue with counters := queue.counters.addDrop direction }

/-- Adds pending work to a queue. -/
def addWork (registry : Registry) (id : QueueId) (work : Nat) :
    Except ControlError Unit × Registry :=
  registry.updateQueue id (·.addWork work)

/-- Takes completed work off a queue and returns what is left; refuses more than is pending. -/
def finishWork (registry : Registry) (id : QueueId) (work : Nat) :
    Except ControlError Nat × Registry :=
  match registry.queue id with
  | .error error => (.error error, registry)
  | .ok queue =>
      if queue.pending < work then (.error (.notPending id queue.pending work), registry)
      else
        let left := queue.pending - work
        (.ok left, registry.putQueue id { queue with pending := left })

end Registry

end FlowSteer
