import FlowSteer.Proofs.Registry.Ownership

/-!
# What counting a packet changes

A packet that is counted changes two counters of its queue and one entry of the table of the queue
(`Queue.CountsPacket`); of the registry it changes this queue and, for a flow that no queue owned,
the directory (`Registry.CountsPacket`). Nothing else is touched: `Ownership.countsPacket`.
-/

namespace FlowSteer

namespace Counters

/-- Packets in a direction. -/
def packets (counters : Counters) : Direction → Nat
  | .tx => counters.txPackets
  | .rx => counters.rxPackets

/-- Bytes in a direction. -/
def bytes (counters : Counters) : Direction → Nat
  | .tx => counters.txBytes
  | .rx => counters.rxBytes

@[simp] theorem packets_addPacket (counters : Counters) (size : Nat)
    (direction other : Direction) :
    (counters.addPacket size direction).packets other =
      counters.packets other + if other = direction then 1 else 0 := by
  cases direction <;> cases other <;> rfl

@[simp] theorem bytes_addPacket (counters : Counters) (size : Nat) (direction other : Direction) :
    (counters.addPacket size direction).bytes other =
      counters.bytes other + if other = direction then size else 0 := by
  cases direction <;> cases other <;> rfl

/-- One packet more in a direction, and nothing else. -/
structure CountsPacket (before after : Counters) (size : Nat) (direction : Direction) : Prop where
  packets : after.packets direction = before.packets direction + 1
  bytes : after.bytes direction = before.bytes direction + size
  otherPackets : ∀ other, other ≠ direction → after.packets other = before.packets other
  otherBytes : ∀ other, other ≠ direction → after.bytes other = before.bytes other
  rest : after = { before with
    rxPackets := after.rxPackets
    txPackets := after.txPackets
    rxBytes := after.rxBytes
    txBytes := after.txBytes }

theorem countsPacket (counters : Counters) (size : Nat) (direction : Direction) :
    CountsPacket counters (counters.addPacket size direction) size direction where
  packets := by simp
  bytes := by simp
  otherPackets := fun other different => by simp [different]
  otherBytes := fun other different => by simp [different]
  rest := by cases direction <;> rfl

end Counters

namespace Queue

/-- One packet more of a flow: in the counters of its direction, and in the entry of the flow,
which is a fresh one if there was none. -/
structure CountsPacket (before after : Queue) (flow : FlowId) (size : Nat) (direction : Direction)
    (now : Nat) : Prop where
  counters : before.counters.CountsPacket after.counters size direction
  entry : after.flows.get? flow =
    some (((before.flows.get? flow).getD (.fresh flow now)).addPacket size now)
  otherEntries : ∀ other, other ≠ flow → after.flows.get? other = before.flows.get? other
  rest : after = { before with
    flows := { before.flows with flows := after.flows.flows }
    counters := after.counters }

variable {queue : Queue} {flow : FlowId}

theorem countsPacket_of_held (held : queue.flows.contains flow = true) (size : Nat)
    (direction : Direction) (now : Nat) :
    queue.CountsPacket (queue.addPacket flow size direction now) flow size direction now := by
  obtain ⟨entry, found⟩ := FlowTable.contains_iff.1 held
  constructor
  case counters => exact queue.counters.countsPacket size direction
  case entry => rw [flows_addPacket, FlowTable.get?_modify, if_pos rfl, found]; rfl
  case otherEntries =>
    intro other different
    rw [flows_addPacket, FlowTable.get?_modify, if_neg different]
  case rest => rfl

theorem countsPacket_of_new (absent : queue.flows.contains flow = false) (size : Nat)
    (direction : Direction) (now : Nat) :
    queue.CountsPacket ((queue.takeIn flow now).addPacket flow size direction now) flow size
      direction now := by
  constructor
  case counters => exact queue.counters.countsPacket size direction
  case entry =>
    rw [flows_addPacket, FlowTable.get?_modify, get?_takeIn, if_pos rfl, if_pos rfl,
      FlowTable.contains_eq_false_iff.1 absent]
    rfl
  case otherEntries =>
    intro other different
    rw [flows_addPacket, FlowTable.get?_modify, get?_takeIn, if_neg different, if_neg different]
  case rest => rfl

end Queue

namespace Registry

/-- One packet more on a queue: the queue counts it, the flow is listed for the queue from then on,
and all the rest is as it was. -/
structure CountsPacket (before after : Registry) (id : QueueId) (flow : FlowId) (size : Nat)
    (direction : Direction) (now : Nat) : Prop where
  counted : ∃ old new, before.queues.get? id = some old ∧ after.queues.get? id = some new ∧
    old.CountsPacket new flow size direction now
  otherQueues : ∀ other, other ≠ id → after.queues.get? other = before.queues.get? other
  /-- The directory is the same for a flow of the queue, and has one flow more for a new one. -/
  directory : (before.ownerOf flow = some id ∧ after.directory = before.directory) ∨
    (before.ownerOf flow = none ∧ after.directory = before.directory.insert flow id)
  rest : after = { before with queues := after.queues, directory := after.directory }

/-- A packet that is not refused is counted, and nothing else happens. -/
theorem Ownership.countsPacket {registry : Registry} (own : Ownership registry) {id : QueueId}
    {flow : FlowId} {size : Nat} {direction : Direction} {now : Nat}
    (taken : (registry.record id flow size direction now).1 = .ok ()) :
    CountsPacket registry (registry.record id flow size direction now).2 id flow size direction
      now := by
  rcases registry.record_cases id flow size direction now with
    ⟨error, result⟩ | ⟨queue, found, held, result⟩ | ⟨queue, found, absent, _, _, owners, result⟩
  · rw [result] at taken
    cases taken
  · rw [result]
    constructor
    case counted =>
      refine ⟨queue, _, found, ?_, Queue.countsPacket_of_held held size direction now⟩
      rw [get?_putQueue, if_pos rfl]
    case otherQueues =>
      intro other different
      rw [get?_putQueue, if_neg different]
    case directory => exact .inl ⟨(own.held_iff found flow).1 held, rfl⟩
    case rest => rfl
  · rw [result]
    have fresh : registry.ownerOf flow = none := owners.resolve_right (own.unowned found absent)
    constructor
    case counted =>
      refine ⟨queue, _, found, ?_, Queue.countsPacket_of_new absent size direction now⟩
      show (registry.putQueue id _).queues.get? id = _
      rw [get?_putQueue, if_pos rfl]
    case otherQueues =>
      intro other different
      show (registry.putQueue id _).queues.get? other = _
      rw [get?_putQueue, if_neg different]
    case directory => exact .inr ⟨fresh, rfl⟩
    case rest => rfl

/-- The entries after a packet. -/
theorem CountsPacket.flow?_eq {before after : Registry} {id : QueueId} {flow : FlowId} {size : Nat}
    {direction : Direction} {now : Nat}
    (counts : CountsPacket before after id flow size direction now) (other : QueueId)
    (key : FlowId) :
    after.flow? other key =
      if other = id ∧ key = flow then
        some (((before.flow? id flow).getD (.fresh flow now)).addPacket size now)
      else before.flow? other key := by
  obtain ⟨old, new, found, present, counted⟩ := counts.counted
  by_cases same : other = id
  · rw [same, flow?_of_get? present, flow?_of_get? found, flow?_of_get? found]
    by_cases equal : key = flow
    · rw [if_pos ⟨rfl, equal⟩, equal, counted.entry]
    · rw [if_neg fun both => equal both.2, counted.otherEntries key equal]
  · rw [if_neg fun both => same both.1, flow?, flow?, counts.otherQueues other same]

end Registry

end FlowSteer
