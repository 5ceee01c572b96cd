import FlowSteer.Link.Drain
import FlowSteer.Proofs.Registry.Queues

/-!
# How transfers end

Sending and receiving are refused at several points, and each refusal leaves something else behind.
Each operation of the packet path is described once by the states that it can leave, so that a
property of these states is proved without looking at the operation again:

* `submit_cases`: descriptors are refused, taken back, or with the device;
* `send_cases`, `postReceive_cases`: what comes before `submit` can refuse as well;
* `Datapath.takeEvent_cases`: an event is taken, or there is none;
* `drainBatches_induct`, `work_cases`: a completion worker does nothing but drain.
-/

namespace FlowSteer

/-- The descriptor of a packet to send. -/
def Packet.descriptor (packet : Packet) (mapping : Mapping) : Descriptor :=
  { mapping, len := packet.len, flow := some packet.flow }

/-- No event is there to take, or one is taken off the channel and counted. -/
theorem Datapath.takeEvent_cases (datapath : Datapath) (id : QueueId) :
    datapath.takeEvent id = (false, datapath) ∨
    ∃ channel rest, datapath.channel? id = some channel ∧ channel.receive = (true, rest) ∧
      datapath.takeEvent id = (true, (datapath.putChannel id rest).count fun stats =>
        { stats with events := stats.events + 1 }) := by
  unfold takeEvent
  cases datapath.channel? id with
  | none => exact .inl rfl
  | some channel =>
      simp only []
      cases received : channel.receive with
      | mk waits rest =>
          cases waits with
          | false => exact .inl rfl
          | true => exact .inr ⟨channel, rest, rfl, received, rfl⟩

namespace Link

/-- The link when the device has taken descriptors. -/
def handedOver (link : Link) (id : QueueId) (descriptors : List Descriptor) (device : Device) :
    Link where
  registry := (link.registry.addWork id descriptors.length).2
  datapath := { link.datapath with device }

/-- The link when the device has refused descriptors. -/
def takenBack (link : Link) (id : QueueId) (descriptors : List Descriptor) : Link where
  registry := ((link.registry.addWork id descriptors.length).2.finishWork id descriptors.length).2
  datapath := (descriptors.map (·.mapping)).foldl Datapath.giveBack link.datapath

/-- The link with the count of posted receive buffers raised. -/
def posted (link : Link) (number : Nat) : Link :=
  link.count fun stats => { stats with rxPosted := stats.rxPosted + number }

variable {id : QueueId} {budget now : Nat}

/-! ## Sending and receiving -/

theorem submit_cases (link : Link) (id : QueueId) (descriptors : List Descriptor) :
    (link.registry.queues.get? id = none ∧
      ∃ error, link.submit id descriptors = (.error error, link)) ∨
    (∃ error device, link.datapath.device.submit id descriptors = (.error error, device) ∧
      link.submit id descriptors = (.error error, link.takenBack id descriptors)) ∨
    ∃ device, link.datapath.device.submit id descriptors = (.ok (), device) ∧
      link.submit id descriptors = (.ok (), link.handedOver id descriptors device) := by
  unfold submit
  cases found : link.registry.queues.get? id with
  | none =>
      refine .inl ⟨rfl, .noSuchQueue id, ?_⟩
      rw [Registry.addWork, Registry.updateQueue, Registry.queue_of_absent found]
  | some queue =>
      have counted : link.registry.addWork id descriptors.length =
          (.ok (), (link.registry.addWork id descriptors.length).2) := by
        rw [Registry.addWork, Registry.updateQueue, Registry.queue_of_get? found]
      rw [counted]
      simp only []
      cases link.datapath.device.submit id descriptors with
      | mk outcome device =>
          cases outcome with
          | error error => exact .inr (.inl ⟨error, device, rfl, rfl⟩)
          | ok _ => exact .inr (.inr ⟨device, rfl, rfl⟩)

theorem send_cases (link : Link) (packet : Packet) (latency now : Nat) :
    (∃ error, link.send packet latency now = (.error error, link)) ∨
    ∃ id queue, link.registry.steer packet.flow = .ok id ∧
      link.registry.queues.get? id = some queue ∧
      ((∃ error datapath, link.datapath.takeBuffer queue.node .tx = (.error error, datapath) ∧
        link.send packet latency now =
          (.error error, ({ link with datapath } : Link).dropPacket id .tx)) ∨
      ∃ mapping datapath, link.datapath.takeBuffer queue.node .tx = (.ok mapping, datapath) ∧
        ((∃ error after, ({ link with datapath } : Link).submit id [packet.descriptor mapping] =
            (.error error, after) ∧
          link.send packet latency now = (.error error, after.dropPacket id .tx)) ∨
        ∃ after, ({ link with datapath } : Link).submit id [packet.descriptor mapping] =
            (.ok (), after) ∧
          link.send packet latency now =
            (.ok { queue := id, buffer := mapping.buffer },
              after.sent id packet latency now))) := by
  unfold send
  cases link.registry.steer packet.flow with
  | error error => exact .inl ⟨error, rfl⟩
  | ok id =>
      simp only []
      cases found : link.registry.queue id with
      | error error => exact .inl ⟨error, rfl⟩
      | ok queue =>
          refine .inr ⟨id, queue, rfl, Registry.queue_eq_ok_iff.1 found, ?_⟩
          simp only []
          cases link.datapath.takeBuffer queue.node .tx with
          | mk outcome datapath =>
              cases outcome with
              | error error => exact .inl ⟨error, datapath, rfl, rfl⟩
              | ok mapping =>
                  refine .inr ⟨mapping, datapath, rfl, ?_⟩
                  simp only [Packet.descriptor]
                  cases ({ link with datapath } : Link).submit id
                      [{ mapping, len := packet.len, flow := some packet.flow }] with
                  | mk outcome after =>
                      cases outcome with
                      | error error => exact .inl ⟨error, after, rfl, rfl⟩
                      | ok _ => exact .inr ⟨after, rfl, rfl⟩

theorem postReceive_cases (link : Link) (id : QueueId) (number : Nat) :
    (∃ error, link.postReceive id number = (.error error, link)) ∨
    ∃ queue descriptors refusal datapath, link.registry.queues.get? id = some queue ∧
      Datapath.takeReceiveBuffers queue.node number link.datapath =
        (descriptors, refusal, datapath) ∧
      ((descriptors = [] ∧ ∃ error,
        link.postReceive id number = (.error error, { link with datapath })) ∨
      (∃ error after, ({ link with datapath } : Link).submit id descriptors =
          (.error error, after) ∧
        link.postReceive id number = (.error error, after)) ∨
      ∃ after, ({ link with datapath } : Link).submit id descriptors = (.ok (), after) ∧
        link.postReceive id number =
          (.ok descriptors.length, after.posted descriptors.length)) := by
  unfold postReceive
  cases found : link.registry.queue id with
  | error error => exact .inl ⟨error, rfl⟩
  | ok queue =>
      simp only []
      cases taken : Datapath.takeReceiveBuffers queue.node number link.datapath with
      | mk descriptors tail =>
          obtain ⟨refusal, datapath⟩ := tail
          refine .inr ⟨queue, descriptors, refusal, datapath,
            Registry.queue_eq_ok_iff.1 found, taken, ?_⟩
          simp only []
          by_cases none : descriptors.isEmpty = true
          · exact .inl ⟨List.isEmpty_iff.1 none, _, if_pos none⟩
          · rw [if_neg none]
            cases ({ link with datapath } : Link).submit id descriptors with
            | mk outcome after =>
                cases outcome with
                | error error => exact .inr (.inl ⟨error, after, rfl, rfl⟩)
                | ok _ => exact .inr (.inr ⟨after, rfl, rfl⟩)

/-! ## Draining -/

/-- What a drain within the budget keeps is kept by one after another. -/
theorem drainBatches_induct {motive : Link → Prop}
    (kept : ∀ link, motive link → motive (link.drain id (some budget) now).2) (limit : Nat)
    {link : Link} (start : motive link) : motive (drainBatches id budget now limit link) := by
  induction limit generalizing link with
  | zero => exact start
  | succ limit ih =>
      have drained := kept link start
      unfold drainBatches
      cases result : link.drain id (some budget) now with
      | mk outcome after =>
          rw [result] at drained
          cases outcome with
          | error error => exact drained
          | ok report =>
              simp only []
              split
              · exact ih drained
              · exact drained

/-- A worker that no event waits for drains once, without a budget. -/
theorem work_cases (link : Link) (id : QueueId) (budget now : Nat) :
    link.work id budget now = (link.drain id none now).2 ∨
    ∃ datapath limit, link.datapath.takeEvent id = (true, datapath) ∧
      link.work id budget now =
        ((drainBatches id budget now limit { link with datapath }).drain id none now).2 := by
  unfold work
  cases link.datapath.takeEvent id with
  | mk waits datapath =>
      cases waits with
      | false => exact .inl rfl
      | true => exact .inr ⟨datapath, _, rfl, rfl⟩

end Link

end FlowSteer
