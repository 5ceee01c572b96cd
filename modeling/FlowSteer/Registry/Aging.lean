import FlowSteer.Registry.Basic

/-!
# Forgetting flows

Flows leave the device when they were idle for too long, or all at once when it goes down. A flow
leaves the directory when it leaves the table of the queue that the directory names.
-/

namespace FlowSteer

namespace Registry

/-- Does some flow of a table, found by its id, pass a test. -/
def holds (registry : Registry) (test : Flow → Bool) (flow : FlowId) (owner : QueueId) :
    Bool :=
  ((registry.queues.get? owner).bind (·.flows.get? flow)).any test

/-- Forgets the flows that were idle for longer than a timeout, and returns how many. -/
def forgetIdle (registry : Registry) (now timeout : Nat) : Nat × Registry :=
  (registry.queues.total fun queue => (queue.flows.idle now timeout).length,
    { registry with
      queues := registry.queues.map fun _ queue =>
        { queue with flows := queue.flows.forgetIdle now timeout }
      directory := registry.directory.filter fun flow owner =>
        !registry.holds (·.isIdle now timeout) flow owner })

/-- Forgets every flow, and returns how many. -/
def forgetAll (registry : Registry) : Nat × Registry :=
  (registry.queues.total (·.flows.size),
    { registry with
      queues := registry.queues.map fun _ queue => { queue with flows := queue.flows.clear }
      directory := registry.directory.filter fun flow owner =>
        !registry.holds (fun _ => true) flow owner })

end Registry

end FlowSteer
