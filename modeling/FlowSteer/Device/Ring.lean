import FlowSteer.Pool

/-!
# Rings

A ring holds the descriptors that were handed to the device for one queue: those in flight and
those completed, each in order.
-/

namespace FlowSteer

/-- A buffer mapped for the device. -/
structure Mapping where
  /-- Address under which the device sees the buffer. -/
  address : Nat
  buffer : Buffer
  direction : Direction
deriving DecidableEq, Inhabited

/-- A buffer handed to the device. -/
structure Descriptor where
  mapping : Mapping
  /-- Length of the payload, or room for one. -/
  len : Nat
  /-- Flow of the payload, unknown for a buffer that waits for one. -/
  flow : Option FlowId
deriving DecidableEq, Inhabited

/-- How a descriptor completed. -/
inductive CompletionStatus where
  /-- Transferred. -/
  | ok
  | error
  /-- Discarded by the device. -/
  | dropped
deriving DecidableEq, Inhabited

namespace CompletionStatus

/-- Name of the status. -/
def label : CompletionStatus → String
  | ok => "ok"
  | error => "error"
  | dropped => "dropped"

/-- Every status. -/
def all : List CompletionStatus := [ok, error, dropped]

/-- The status with a given name. -/
def ofLabel? (text : String) : Option CompletionStatus := all.find? (·.label == text)

end CompletionStatus

/-- A descriptor that the device is done with. -/
structure Completion where
  descriptor : Descriptor
  /-- Bytes transferred. -/
  len : Nat
  /-- Flow of a received payload. -/
  flow : Option FlowId
  status : CompletionStatus
deriving DecidableEq, Inhabited

/-- The mapping that a completed descriptor held. -/
def Completion.mapping (completion : Completion) : Mapping := completion.descriptor.mapping

namespace Descriptor

/-- Direction of the transfer. -/
def direction (descriptor : Descriptor) : Direction := descriptor.mapping.direction

/-- The descriptor completed as it was submitted. -/
def completeAs (descriptor : Descriptor) (status : CompletionStatus) : Completion where
  descriptor
  len := descriptor.len
  flow := descriptor.flow
  status

/-- The descriptor filled with a received payload, as far as there is room. -/
def fill (descriptor : Descriptor) (flow : FlowId) (len : Nat) : Completion where
  descriptor
  len := min len descriptor.len
  flow := some flow
  status := .ok

end Descriptor

/-- The descriptors of one queue. -/
structure Ring where
  inFlight : List Descriptor := []
  completed : List Completion := []
deriving DecidableEq, Inhabited

namespace Ring

/-- Takes in some descriptors. -/
def submit (ring : Ring) (descriptors : List Descriptor) : Ring :=
  { ring with inFlight := ring.inFlight ++ descriptors }

/-- Completes the oldest descriptor in flight that is asked for, if there is one. -/
def finish? (ring : Ring) (asked : Descriptor → Bool) (complete : Descriptor → Completion) :
    Option Ring :=
  (ring.inFlight.find? asked).map fun descriptor =>
    { inFlight := ring.inFlight.eraseP asked
      completed := ring.completed ++ [complete descriptor] }

/-- Hands out the oldest completions, at most as many as the budget allows. -/
def poll (ring : Ring) (budget : Nat) : List Completion × Ring :=
  (ring.completed.take budget, { ring with completed := ring.completed.drop budget })

end Ring

end FlowSteer
