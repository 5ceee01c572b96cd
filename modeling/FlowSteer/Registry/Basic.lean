import FlowSteer.ControlError
import FlowSteer.Queue

/-!
# The registry

The registry owns all queues and, through them, all flows. Beside the flow tables it keeps a
directory that names the owner of each flow, so that one flow is never taken in by two queues.

An operation that can be refused returns its outcome beside the state it leaves.
-/

namespace FlowSteer

/-- Queues by id, and the owner of each flow. -/
structure Registry where
  /-- Queue ids lie below this number. -/
  capacity : Nat
  /-- Limit on new flows for each queue. -/
  maxFlows : Nat
  queues : IdMap Queue := .empty
  /-- Owner of each flow. -/
  directory : IdMap QueueId := .empty
deriving DecidableEq, Inhabited

/-- A flow with its owner. -/
structure OwnedFlow where
  queue : QueueId
  flow : Flow
deriving DecidableEq, Inhabited

namespace Registry

/-- Bytes of the place of a queue. -/
def slotBytes : Nat := 16

/-- A registry without queues. -/
def empty (capacity maxFlows : Nat) : Registry := { capacity, maxFlows }

/-! ## Queues -/

/-- The queue under an id. -/
def queue (registry : Registry) (id : QueueId) : Except ControlError Queue :=
  match registry.queues.get? id with
  | some queue => .ok queue
  | none => .error (.noSuchQueue id)

/-- Puts a queue in place. -/
def putQueue (registry : Registry) (id : QueueId) (queue : Queue) : Registry :=
  { registry with queues := registry.queues.insert id queue }

/-- Changes one queue, or reports that there is no such queue. -/
def updateQueue (registry : Registry) (id : QueueId) (change : Queue → Queue) :
    Except ControlError Unit × Registry :=
  match registry.queue id with
  | .error error => (.error error, registry)
  | .ok queue => (.ok (), registry.putQueue id (change queue))

/-- Registers a queue on a memory node. -/
def register (registry : Registry) (id : QueueId) (node : NodeId) :
    Except ControlError Unit × Registry :=
  if registry.capacity ≤ id then (.error (.idTooLarge id registry.capacity), registry)
  else if registry.queues.contains id then (.error (.queueExists id), registry)
  else (.ok (), registry.putQueue id (.fresh node registry.maxFlows))

/-- Registered ids in ascending order. -/
def queueIds (registry : Registry) : List QueueId := registry.queues.ids

/-- Number of registered queues. -/
def size (registry : Registry) : Nat := registry.queues.size

/-- Is no queue registered. -/
def isEmpty (registry : Registry) : Bool := registry.queues.isEmpty

/-! ## Status -/

/-- Status of a queue. -/
def status (registry : Registry) (id : QueueId) : Except ControlError QueueStatus :=
  (registry.queue id).map (·.status)

/-- Sets the status of a queue and returns the one before. -/
def setStatus (registry : Registry) (id : QueueId) (status : QueueStatus) :
    Except ControlError QueueStatus × Registry :=
  match registry.queue id with
  | .error error => (.error error, registry)
  | .ok queue => (.ok queue.status, registry.putQueue id { queue with status })

/-- Zeroes the error counters of a queue, sets its status and returns the one before. -/
def clearErrors (registry : Registry) (id : QueueId) (status : QueueStatus) :
    Except ControlError QueueStatus × Registry :=
  match registry.queue id with
  | .error error => (.error error, registry)
  | .ok queue => (.ok queue.status, registry.putQueue id (queue.clearErrors status))

/-- Sets the status that `choose` makes out of what the queue shows, if it makes one. -/
def updateStatus (registry : Registry) (id : QueueId)
    (choose : QueueView → Option QueueStatus) :
    Except ControlError (Option QueueStatus) × Registry :=
  match registry.queue id with
  | .error error => (.error error, registry)
  | .ok queue =>
      match choose (queue.view id) with
      | none => (.ok none, registry)
      | some status => (.ok (some status), registry.putQueue id { queue with status })

/-! ## Views -/

/-- What one queue shows. -/
def view (registry : Registry) (id : QueueId) : Except ControlError QueueView :=
  (registry.queue id).map (·.view id)

/-- What every queue shows, ascending by id. -/
def views (registry : Registry) : List QueueView :=
  registry.queues.toList.map fun entry => entry.2.view entry.1

/-- Flows of one queue, ascending by id. -/
def queueFlows (registry : Registry) (id : QueueId) : Except ControlError (List Flow) :=
  (registry.queue id).map (·.flows.entries)

/-- Every flow with its owner, ascending by flow id. -/
def flows (registry : Registry) : List OwnedFlow :=
  (registry.queues.toList.flatMap fun entry =>
    entry.2.flows.entries.map fun flow => { queue := entry.1, flow }).mergeSort
      fun left right => left.flow.id ≤ right.flow.id

/-- Owner of a flow by the directory. -/
def ownerOf (registry : Registry) (flow : FlowId) : Option QueueId :=
  registry.directory.get? flow

/-- First queue whose table holds a flow. -/
def holderOf (registry : Registry) (flow : FlowId) : Option QueueId :=
  (registry.queues.toList.find? fun entry => entry.2.flows.contains flow).map Prod.fst

/-- Number of flows in the directory. -/
def flowCount (registry : Registry) : Nat := registry.directory.size

/-- Pending work of all queues, as a word. -/
def totalPending (registry : Registry) : Nat := registry.queues.total (·.pending) % wordSize

/-- One-line summary of the registry. -/
def describe (registry : Registry) : String :=
  let capacity := registry.capacity
  let registered := registry.size
  let flows := registry.flowCount
  s!"QueueRegistry \x7b capacity: {capacity}, registered: {registered}, flows: {flows} \x7d"

end Registry

end FlowSteer
