import FlowSteer.Direction

/-!
# Errors of the control plane

One constructor for each cause. `message` is the text shown to an operator, `kind` the coarse
class by which a caller decides how to react.
-/

namespace FlowSteer

/-- Why an operation of the control plane was refused. -/
inductive ControlError where
  /-- A queue id beyond the fixed capacity of the registry. -/
  | idTooLarge (queue : QueueId) (capacity : Nat)
  /-- A queue registered a second time. -/
  | queueExists (queue : QueueId)
  | noSuchQueue (queue : QueueId)
  /-- A flow that is not on the queue where it was looked for. -/
  | noSuchFlow (flow : FlowId) (queue : QueueId)
  /-- A flow that lives on another queue. -/
  | ownedElsewhere (flow : FlowId) (owner : QueueId)
  | tableFull (queue : QueueId)
  /-- A failed queue takes in no flow. -/
  | outOfService (queue : QueueId)
  /-- Source and destination of a move are one queue. -/
  | sameQueue (queue : QueueId)
  /-- No other queue can take over. -/
  | noReplacement (queue : QueueId)
  /-- More work completed than was pending. -/
  | notPending (queue : QueueId) (pending completed : Nat)
  | ringFull (queue : QueueId)
  /-- No free buffer on the node. -/
  | noBuffer (node : NodeId)
  /-- A buffer could not be mapped for the device. -/
  | mapRefused (reason : String)
  /-- An interrupt vector could not be attached. -/
  | vectorRefused (queue : QueueId) (reason : String)
  | badSettings (reason : String)
  /-- A file that cannot be read as text. -/
  | unreadable (reason : String)
  /-- A text that is not the JSON it should be. -/
  | malformed (reason : String)
deriving DecidableEq, Inhabited

/-- Coarse class of an error. -/
inductive ErrorKind where
  /-- Something is full: drop or back off. -/
  | full
  /-- Something is absent: a mistake of the caller, or already settled. -/
  | absent
  /-- The device refused a submission. -/
  | busy
  /-- A mapping or a vector was refused. -/
  | mapping
  /-- The books would no longer balance. -/
  | invariant
  | settings
deriving DecidableEq, Inhabited

namespace ControlError

/-- Text of the error. -/
def message : ControlError → String
  | idTooLarge queue capacity => s!"queue {queue} exceeds registry capacity {capacity}"
  | queueExists queue => s!"queue {queue} already registered"
  | noSuchQueue queue => s!"queue {queue} not found"
  | noSuchFlow flow queue => s!"flow {flow} not found on queue {queue}"
  | ownedElsewhere flow owner => s!"flow {flow} is owned by queue {owner}"
  | tableFull queue => s!"flow table full on queue {queue}"
  | outOfService queue => s!"queue {queue} has failed"
  | sameQueue queue => s!"source and destination are both queue {queue}"
  | noReplacement queue => s!"no replacement queue available for queue {queue}"
  | notPending queue pending completed =>
      s!"queue {queue}: completing {completed} with only {pending} pending"
  | ringFull queue => s!"device busy on queue {queue}"
  | noBuffer node => s!"buffer pool exhausted on NUMA node {node}"
  | mapRefused reason => s!"map error: {reason}"
  | vectorRefused queue reason => s!"interrupt vector error on queue {queue}: {reason}"
  | badSettings reason => s!"config error: {reason}"
  | unreadable reason => s!"IO error: {reason}"
  | malformed reason => s!"JSON error: {reason}"

/-- Class of the error. -/
def kind : ControlError → ErrorKind
  | idTooLarge .. | tableFull _ | noBuffer _ => .full
  | noSuchQueue _ | noSuchFlow .. | ownedElsewhere .. => .absent
  | ringFull _ => .busy
  | mapRefused _ | vectorRefused .. => .mapping
  | queueExists _ | outOfService _ | sameQueue _ | noReplacement _ | notPending .. => .invariant
  | badSettings _ | unreadable _ | malformed _ => .settings

/-- Errors that are noted and otherwise ignored. -/
def isBenign (error : ControlError) : Bool := error.kind == .absent

end ControlError

end FlowSteer
