import FlowSteer.Link.Basic

/-!
# Sending and receiving

Pending work is counted before the device gets a descriptor and taken back when the device
refuses it. A packet that cannot be sent is dropped and counted as such; nothing else of it is
left.
-/

namespace FlowSteer

namespace Link

/-- Hands descriptors to the device as pending work. When the device is busy the work is taken
back, and buffers and mappings are given back. -/
def submit (link : Link) (queue : QueueId) (descriptors : List Descriptor) :
    Except ControlError Unit × Link :=
  -- Pending work comes first, so that a completion finds it.
  match link.registry.addWork queue descriptors.length with
  | (.error error, _) => (.error error, link)
  | (.ok (), registry) =>
      match link.datapath.device.submit queue descriptors with
      | (.ok (), device) =>
          (.ok (), { registry, datapath := { link.datapath with device } })
      | (.error error, _) =>
          (.error error,
            { registry := (registry.finishWork queue descriptors.length).2
              datapath := (descriptors.map (·.mapping)).foldl Datapath.giveBack link.datapath })

/-- Counts a packet that the device has taken, and its latency. -/
def sent (link : Link) (queue : QueueId) (packet : Packet) (latency now : Nat) : Link :=
  let counted := (link.count fun stats =>
    { stats with
      txPackets := stats.txPackets + 1
      txBytes := stats.txBytes + packet.len }).account queue packet.flow packet.len .tx now
  { registry := (counted.registry.recordLatency packet.flow latency).2
    datapath := { counted.datapath with latency := counted.datapath.latency.record latency } }

/-- Sends one packet on the queue that the registry chooses. `latency` is the time that sending
took. -/
def send (link : Link) (packet : Packet) (latency now : Nat) :
    Except ControlError Receipt × Link :=
  match link.registry.steer packet.flow with
  | .error error => (.error error, link)
  | .ok queue =>
      match link.registry.queue queue with
      | .error error => (.error error, link)
      | .ok { node, .. } =>
          match link.datapath.takeBuffer node .tx with
          | (.error error, datapath) =>
              (.error error, { link with datapath }.dropPacket queue .tx)
          | (.ok mapping, datapath) =>
              match { link with datapath }.submit queue
                  [{ mapping, len := packet.len, flow := some packet.flow }] with
              | (.error error, link) => (.error error, link.dropPacket queue .tx)
              | (.ok (), link) =>
                  (.ok { queue, buffer := mapping.buffer }, link.sent queue packet latency now)

/-- Posts receive buffers on a queue, as many as can be taken and mapped up to a number, and
returns how many. The table of their descriptors is taken to have room for that number of them. -/
def postReceive (link : Link) (queue : QueueId) (number : Nat) :
    Except ControlError Nat × Link :=
  match link.registry.queue queue with
  | .error error => (.error error, link)
  | .ok { node, .. } =>
      let (descriptors, refusal, datapath) := Datapath.takeReceiveBuffers node number link.datapath
      if descriptors.isEmpty then
        (.error (refusal.getD (.noBuffer node)), { link with datapath })
      else
        match { link with datapath }.submit queue descriptors with
        | (.error error, link) => (.error error, link)
        | (.ok (), link) =>
            (.ok descriptors.length, link.count fun stats =>
              { stats with rxPosted := stats.rxPosted + descriptors.length })

/-- Bytes of a descriptor in that table. -/
def descriptorBytes : Nat := 40

/-- Posts receive buffers on a queue, unless the program stops: it allocates the table before it
looks at the pool. -/
def postReceive? (link : Link) (queue : QueueId) (number : Nat) :
    Option (Except ControlError Nat × Link) :=
  match link.registry.queue queue with
  | .error error => some (.error error, link)
  | .ok _ => if allocates number descriptorBytes then some (link.postReceive queue number) else none

end Link

end FlowSteer
