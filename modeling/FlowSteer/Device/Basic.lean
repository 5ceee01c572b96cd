import FlowSteer.Device.Channel
import FlowSteer.Device.Ring
import FlowSteer.IdMap

/-!
# The loopback device

A device in memory: a bounded ring for each queue, completion vectors with their channels, the
hints last programmed, and a mapper that counts. Descriptors complete when it is told so. Mapping
can be made to fail for testing.
-/

namespace FlowSteer

/-- State of the device. -/
structure Device where
  /-- Room in flight of each ring. -/
  ringCapacity : Nat
  rings : IdMap Ring := .empty
  /-- Channels of the attached vectors. -/
  vectors : IdMap Channel := .empty
  /-- Processor last programmed for each queue. -/
  affinity : IdMap CpuId := .empty
  /-- Coalescing interval last programmed for each queue. -/
  coalescing : IdMap Nat := .empty
  /-- Address of the next mapping. -/
  nextAddress : Nat := 0x1000
  /-- Number of live mappings. -/
  mapped : Nat := 0
  /-- Number of map requests that will fail. -/
  faults : Nat := 0
deriving DecidableEq, Inhabited

namespace Device

/-! ## Rings -/

/-- The ring of a queue. -/
def ring (device : Device) (queue : QueueId) : Ring := (device.rings.get? queue).getD {}

/-- Number of descriptors in flight for a queue. -/
def inFlight (device : Device) (queue : QueueId) : Nat := (device.ring queue).inFlight.length

/-- Puts a ring in place. -/
def putRing (device : Device) (queue : QueueId) (ring : Ring) : Device :=
  { device with rings := device.rings.insert queue ring }

/-- Hands descriptors to the device, all of them or none. -/
def submit (device : Device) (queue : QueueId) (descriptors : List Descriptor) :
    Except ControlError Unit × Device :=
  if device.ringCapacity < device.inFlight queue + descriptors.length then
    (.error (.ringFull queue), device)
  else (.ok (), device.putRing queue ((device.ring queue).submit descriptors))

/-- Collects completions of a queue, at most as many as the budget allows. -/
def poll (device : Device) (queue : QueueId) (budget : Nat) : List Completion × Device :=
  match device.rings.get? queue with
  | none => ([], device)
  | some ring =>
      let (completions, rest) := ring.poll budget
      (completions, device.putRing queue rest)

/-! ## Completion -/

/-- Signals the vector of a queue, if one is attached. -/
def raise (device : Device) (queue : QueueId) : Device :=
  { device with vectors := device.vectors.modify queue (·.notify.2) }

/-- Completes the oldest descriptor in flight that is asked for and signals the queue; tells
whether there was one. -/
def finish (device : Device) (queue : QueueId) (asked : Descriptor → Bool)
    (complete : Descriptor → Completion) : Bool × Device :=
  match (device.ring queue).finish? asked complete with
  | none => (false, device)
  | some ring => (true, (device.putRing queue ring).raise queue)

/-- Completes the oldest descriptor in flight. -/
def complete (device : Device) (queue : QueueId) (status : CompletionStatus) : Bool × Device :=
  device.finish queue (fun _ => true) (·.completeAs status)

/-- Fills the oldest receive buffer in flight. -/
def receive (device : Device) (queue : QueueId) (flow : FlowId) (len : Nat) : Bool × Device :=
  device.finish queue (·.direction == .rx) (·.fill flow len)

/-- Completes transmit descriptors, oldest first, at most `limit` of them. -/
def completeSendsUpTo (queue : QueueId) : (limit : Nat) → Device → Nat × Device
  | 0, device => (0, device)
  | limit + 1, device =>
      match device.finish queue (·.direction == .tx) (·.completeAs .ok) with
      | (false, device) => (0, device)
      | (true, device) =>
          let (rest, device) := completeSendsUpTo queue limit device
          (rest + 1, device)

/-- Completes every transmit descriptor in flight and returns how many there were. -/
def completeSends (device : Device) (queue : QueueId) : Nat × Device :=
  completeSendsUpTo queue (device.inFlight queue) device

/-! ## Mapping -/

/-- Text shown for a mapping that was made to fail. -/
def faultText (buffer : Buffer) : String :=
  let node := buffer.node
  let index := buffer.index
  s!"injected fault mapping BufferHandle \x7b node: {node}, index: {index} \x7d"

/-- Maps a buffer for the device. -/
def mapBuffer (device : Device) (buffer : Buffer) (direction : Direction) :
    Except ControlError Mapping × Device :=
  if 0 < device.faults then
    (.error (.mapRefused (faultText buffer)), { device with faults := device.faults - 1 })
  else
    (.ok { address := device.nextAddress, buffer, direction },
      { device with mapped := device.mapped + 1, nextAddress := device.nextAddress + 0x1000 })

/-- Releases one mapping. -/
def unmap (device : Device) : Device := { device with mapped := device.mapped - 1 }

/-- Makes the next map requests fail. -/
def injectFaults (device : Device) (count : Nat) : Device := { device with faults := count }

/-! ## Vectors and hints -/

/-- Attaches a vector to a queue, with a channel of some capacity. -/
def attach (device : Device) (queue : QueueId) (capacity : Nat) :
    Except ControlError Unit × Device :=
  if device.vectors.contains queue then
    (.error (.vectorRefused queue "vector already attached"), device)
  else (.ok (), { device with vectors := device.vectors.insert queue { capacity } })

/-- Detaches the vector of a queue. -/
def detach (device : Device) (queue : QueueId) : Device :=
  { device with vectors := device.vectors.erase queue }

/-- Number of attached vectors. -/
def vectorCount (device : Device) : Nat := device.vectors.size

/-- Attaches vectors to some queues, all of them or none. -/
def attachAll (capacity : Nat) : (attached : List QueueId) → List QueueId → Device →
    Except ControlError Unit × Device
  | _, [], device => (.ok (), device)
  | attached, queue :: rest, device =>
      match device.attach queue capacity with
      | (.error error, device) => (.error error, attached.foldl detach device)
      | (.ok (), device) => attachAll capacity (attached ++ [queue]) rest device

/-- Programs the processor of a queue. -/
def setAffinity (device : Device) (queue : QueueId) (cpu : CpuId) : Device :=
  { device with affinity := device.affinity.insert queue cpu }

/-- Programs the coalescing interval of a queue. -/
def setInterval (device : Device) (queue : QueueId) (usecs : Nat) : Device :=
  { device with coalescing := device.coalescing.insert queue usecs }

end Device

end FlowSteer
