import FlowSteer.Device.Basic
import FlowSteer.Flow.Key
import FlowSteer.Histogram
import FlowSteer.Registry.Traffic

/-!
# The datapath

Buffers, device and statistics of the packet path, and the link that joins them with the
registry. A packet takes a buffer of its queue's node and a mapping of it; both are given back
when the packet completes, or when it cannot be sent.
-/

namespace FlowSteer

/-- A packet to be sent. -/
structure Packet where
  flow : FlowId
  len : Nat
deriving DecidableEq, Inhabited

/-- A packet of the flow that a key names. -/
def Packet.ofKey (key : FlowKey) (len : Nat) : Packet := { flow := key.flowId, len }

/-- Counters of the packet path. -/
structure LinkStats where
  txPackets : Nat := 0
  txBytes : Nat := 0
  txCompletions : Nat := 0
  rxPackets : Nat := 0
  rxBytes : Nat := 0
  rxPosted : Nat := 0
  dropped : Nat := 0
  errors : Nat := 0
  /-- Packets that belong to no flow on record. -/
  untracked : Nat := 0
  events : Nat := 0
  /-- Completions beyond the pending work. -/
  underflows : Nat := 0
deriving DecidableEq, Inhabited

/-- Where a packet went. -/
structure Receipt where
  queue : QueueId
  buffer : Buffer
deriving DecidableEq, Inhabited

/-- What one drain found. -/
structure DrainReport where
  events : Nat := 0
  completed : Nat := 0
  rxPackets : Nat := 0
  txCompletions : Nat := 0
  errors : Nat := 0
  dropped : Nat := 0
deriving DecidableEq, Inhabited

/-- Buffers, device and statistics of the packet path. -/
structure Datapath where
  pools : Pools
  device : Device
  /-- Queues whose channels the datapath listens to. -/
  listening : List QueueId := []
  /-- Channels it listens to that have lost their vector. What waits in them can still be taken. -/
  parted : IdMap Channel := .empty
  /-- Room of a receive buffer. -/
  bufferSize : Nat
  stats : LinkStats := {}
  /-- Latency of sending. -/
  latency : Histogram := {}
deriving DecidableEq, Inhabited

namespace Datapath

/-- Takes a buffer of a node and maps it; a buffer that cannot be mapped goes back. -/
def takeBuffer (datapath : Datapath) (node : NodeId) (direction : Direction) :
    Except ControlError Mapping × Datapath :=
  match datapath.pools.alloc node with
  | (.error error, _) => (.error error, datapath)
  | (.ok buffer, pools) =>
      match datapath.device.mapBuffer buffer direction with
      | (.error error, device) =>
          (.error error, { datapath with device, pools := pools.release buffer })
      | (.ok mapping, device) => (.ok mapping, { datapath with device, pools })

/-- Gives back a mapping and its buffer. -/
def giveBack (datapath : Datapath) (mapping : Mapping) : Datapath :=
  { datapath with
    device := datapath.device.unmap
    pools := datapath.pools.release mapping.buffer }

/-- Takes and maps receive buffers until there are enough of them or one is refused; returns the
refusal too. -/
def takeReceiveBuffers (node : NodeId) : Nat → Datapath →
    List Descriptor × Option ControlError × Datapath
  | 0, datapath => ([], none, datapath)
  | count + 1, datapath =>
      match datapath.takeBuffer node .rx with
      | (.error error, datapath) => ([], some error, datapath)
      | (.ok mapping, datapath) =>
          let (descriptors, refusal, datapath) := takeReceiveBuffers node count datapath
          ({ mapping, len := datapath.bufferSize, flow := none } :: descriptors, refusal, datapath)

/-- Changes the statistics. -/
def count (datapath : Datapath) (change : LinkStats → LinkStats) : Datapath :=
  { datapath with stats := change datapath.stats }

/-- The channel of a queue to which the datapath listens: that of the first vector of the queue,
whatever becomes of the vector. -/
def channel? (datapath : Datapath) (queue : QueueId) : Option Channel :=
  if datapath.listening.contains queue then
    (datapath.parted.get? queue).or (datapath.device.vectors.get? queue)
  else none

/-- Puts a channel in place. -/
def putChannel (datapath : Datapath) (queue : QueueId) (channel : Channel) : Datapath :=
  { datapath with
    parted := datapath.parted.modify queue fun _ => channel
    device := { datapath.device with
      vectors := if datapath.parted.contains queue then datapath.device.vectors
        else datapath.device.vectors.insert queue channel } }

/-- The channels without a vector after that of a queue is detached. -/
def partedFrom (datapath : Datapath) (queue : QueueId) : IdMap Channel :=
  match datapath.channel? queue with
  | some channel => datapath.parted.insert queue channel
  | none => datapath.parted

/-- Detaches the vector of a queue. The datapath keeps the channel. -/
def detach (datapath : Datapath) (queue : QueueId) : Datapath :=
  { datapath with
    device := datapath.device.detach queue
    parted := datapath.partedFrom queue }

/-- Takes the events of a queue to which the datapath listens, and returns how many. -/
def takeEvents (datapath : Datapath) (queue : QueueId) : Nat × Datapath :=
  match datapath.channel? queue with
  | none => (0, datapath)
  | some channel =>
      let (events, rest) := channel.receiveAll
      (events,
        (datapath.putChannel queue rest).count fun stats =>
          { stats with events := stats.events + events })

/-- Takes one event of a queue to which the datapath listens, if one waits. -/
def takeEvent (datapath : Datapath) (queue : QueueId) : Bool × Datapath :=
  match datapath.channel? queue with
  | none => (false, datapath)
  | some channel =>
      match channel.receive with
      | (false, _) => (false, datapath)
      | (true, rest) =>
          (true,
            (datapath.putChannel queue rest).count fun stats =>
              { stats with events := stats.events + 1 })

end Datapath

/-- The registry together with the datapath that accounts into it. -/
structure Link where
  registry : Registry
  datapath : Datapath
deriving DecidableEq, Inhabited

namespace Link

/-- Changes the statistics of the datapath. -/
def count (link : Link) (change : LinkStats → LinkStats) : Link :=
  { link with datapath := link.datapath.count change }

/-- Counts a packet for a flow. A packet of a flow that another queue owns is counted there; a
packet that no queue can count is untracked. -/
def account (link : Link) (queue : QueueId) (flow : FlowId) (bytes : Nat)
    (direction : Direction) (now : Nat) : Link :=
  let outcome :=
    match link.registry.record queue flow bytes direction now with
    -- The flow has moved since its packet was sent.
    | (.error (.ownedElsewhere _ owner), registry) => registry.record owner flow bytes direction now
    | other => other
  match outcome with
  | (.ok (), registry) => { link with registry }
  | (.error _, registry) =>
      { link with registry }.count fun stats => { stats with untracked := stats.untracked + 1 }

/-- Counts a dropped packet. -/
def dropPacket (link : Link) (queue : QueueId) (direction : Direction) : Link :=
  { link with registry := (link.registry.countDrop queue direction).2 }.count fun stats =>
    { stats with dropped := stats.dropped + 1 }

end Link

end FlowSteer
