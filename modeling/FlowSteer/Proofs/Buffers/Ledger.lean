import FlowSteer.Proofs.Buffers.Steps

/-!
# The ledger of the packet path

Five things are kept apart and have to agree: free buffers, the number of buffers out, live
mappings, descriptors in rings, and pending work. `Ledger` says how they agree at any point of an
operation: the buffers in `hand` are out and mapped but in no ring, and a queue may be `owed` work
that is counted but in no ring.

* `Ledger.submit`: a hand of descriptors goes to the device, or all of it goes back;
* `Ledger.collect`: completions that were collected go back, and the work with them;
* `Ledger.linkOp`: every operation of the packet path ends with an empty hand and nothing owed.
-/

namespace FlowSteer

namespace Link

open Descriptor (buffersOf)

/-- Pools, mappings, rings and pending work agree, and no underflow was counted. -/
structure Ledger (nodes size : Nat) (hand : Multiset Buffer) (owed : QueueId → Nat)
    (link : Link) : Prop where
  covers : link.datapath.Covers nodes size hand
  agree : link.registry.Matches link.datapath.device owed
  underflows : link.datapath.stats.underflows = 0

namespace Ledger

variable {nodes size : Nat} {hand : Multiset Buffer} {owed : QueueId → Nat} {link after : Link}
  {id : QueueId} {queue : Queue}

theorem of_spares (ledger : Ledger nodes size hand owed link) (same : Spares link after) :
    Ledger nodes size hand owed after where
  covers := by
    obtain ⟨lend, mapped⟩ := ledger.covers
    constructor
    · rw [same.pools, same.device.buffers]
      exact lend
    · rw [same.device.mapped, same.device.buffers]
      exact mapped
  agree := (ledger.agree.of_rings same.device.rings).of_keeps same.work
  underflows := same.underflows.trans ledger.underflows

/-- Other buffers are in hand, and the rest is as before. -/
theorem of_covers (ledger : Ledger nodes size hand owed link) {other : Multiset Buffer}
    {datapath : Datapath} (covers : datapath.Covers nodes size other)
    (same : link.datapath.SameRings datapath) :
    Ledger nodes size other owed { link with datapath } where
  covers := covers
  agree := ledger.agree.of_rings same.ring
  underflows := same.underflows.trans ledger.underflows

/-! ## Sending and receiving -/

/-- Work of one queue in hand and in its ring is less than a word. -/
theorem fits (ledger : Ledger nodes size hand 0 link) (small : size < wordSize)
    (found : link.registry.queues.get? id = some queue)
    (homed : ∀ buffer ∈ hand, buffer.node = queue.node) :
    queue.pending + Multiset.card hand < wordSize := by
  have bounded : Multiset.card (hand + (link.datapath.device.ring id).buffers) ≤ size := by
    apply ledger.covers.lend.card_le_of_local
    · exact add_le_add le_rfl (link.datapath.device.buffers_ring_le id)
    · intro buffer member
      rcases Multiset.mem_add.1 member with inHand | inRing
      · exact homed buffer inHand
      · exact ledger.agree.homed found buffer inRing
  rw [Multiset.card_add] at bounded
  rw [ledger.agree.pending found, Pi.zero_apply]
  omega

/-- A hand of descriptors goes to the device, or all of it goes back. -/
theorem submit {descriptors : List Descriptor}
    (ledger : Ledger nodes size (buffersOf descriptors) 0 link) (small : size < wordSize)
    (found : link.registry.queues.get? id = some queue)
    (homed : ∀ buffer ∈ buffersOf descriptors, buffer.node = queue.node) :
    Ledger nodes size 0 0 (link.submit id descriptors).2 := by
  have fits := ledger.fits small found homed
  rw [Descriptor.card_buffersOf] at fits
  have begun := ledger.agree.begin found fits
  have counted : (link.registry.addWork id descriptors.length).2.queues.get? id =
      some (queue.addWork descriptors.length) := by
    rw [Registry.addWork, Registry.updateQueue_snd, Registry.adjust_of_get? found,
      Registry.get?_putQueue, if_pos rfl]
  rcases link.submit_cases id descriptors with
    ⟨absent, _⟩ | ⟨_, _, _, result⟩ | ⟨device, taken, result⟩
  · rw [found] at absent
    cases absent
  · rw [result]
    obtain ⟨left, rest, finished, agree⟩ := begun.finish counted
    have held := ledger.covers
    rw [Descriptor.buffersOf_eq] at held
    obtain ⟨covers, same⟩ := held.giveBackAll
    refine ⟨covers, ?_, same.underflows.trans ledger.underflows⟩
    show Registry.Matches (Registry.finishWork _ id descriptors.length).2 _ 0
    rw [finished]
    exact agree.of_rings same.ring
  · rw [result]
    obtain rfl := Device.eq_of_submit taken
    refine ⟨⟨?_, ?_⟩, begun.submit counted homed, ledger.underflows⟩
    · rw [zero_add]
      show link.datapath.pools.Lend nodes size (link.datapath.device.putRing id _).buffers
      rw [Device.buffers_submit, add_comm]
      exact ledger.covers.lend
    · rw [zero_add]
      show link.datapath.device.mapped =
        Multiset.card (link.datapath.device.putRing id _).buffers
      rw [Device.buffers_submit, add_comm]
      exact ledger.covers.mapped

theorem send (ledger : Ledger nodes size 0 0 link) (small : size < wordSize) (packet : Packet)
    (latency now : Nat) : Ledger nodes size 0 0 (link.send packet latency now).2 := by
  rcases link.send_cases packet latency now with
    ⟨_, result⟩ | ⟨id, queue, _, found, ⟨_, datapath, refused, result⟩ |
      ⟨mapping, datapath, held, ends⟩⟩
  · rw [result]
    exact ledger
  · rw [result]
    obtain ⟨covers, same⟩ := ledger.covers.of_refused refused
    exact (ledger.of_covers covers same).of_spares (.dropPacket _ id .tx)
  · obtain ⟨named, covers, same⟩ := ledger.covers.of_held held
    have inHand : Ledger nodes size (buffersOf [packet.descriptor mapping]) 0
        { link with datapath } := ledger.of_covers covers same
    have homed : ∀ buffer ∈ buffersOf [packet.descriptor mapping], buffer.node = queue.node := by
      intro buffer member
      rw [Multiset.mem_singleton.1 member]
      exact named
    have submitted := inHand.submit small found homed
    rcases ends with ⟨_, after, refused, result⟩ | ⟨after, taken, result⟩
    · rw [refused] at submitted
      rw [result]
      exact submitted.of_spares (.dropPacket after id .tx)
    · rw [taken] at submitted
      rw [result]
      exact submitted.of_spares (.sent after id packet latency now)

theorem postReceive (ledger : Ledger nodes size 0 0 link) (small : size < wordSize)
    (id : QueueId) (number : Nat) : Ledger nodes size 0 0 (link.postReceive id number).2 := by
  rcases link.postReceive_cases id number with
    ⟨_, result⟩ | ⟨queue, descriptors, refusal, datapath, found, taken, ends⟩
  · rw [result]
    exact ledger
  · obtain ⟨covers, same, homed⟩ := ledger.covers.takeReceiveBuffers _ _ taken
    rw [add_zero] at covers
    have inHand := ledger.of_covers covers same
    rcases ends with ⟨none, _, result⟩ | ⟨_, after, refused, result⟩ | ⟨after, taken, result⟩
    · rw [result]
      rw [none] at inHand
      exact inHand
    · have submitted := inHand.submit small found homed
      rw [refused] at submitted
      rw [result]
      exact submitted
    · have submitted := inHand.submit small found homed
      rw [taken] at submitted
      rw [result]
      exact submitted.of_spares (.count after rfl)

/-! ## Draining -/

theorem settle {completed : Nat} (ledger : Ledger nodes size hand (Pi.single id completed) link)
    (found : link.registry.queues.get? id = some queue) :
    Ledger nodes size hand 0 (link.settle id completed) := by
  obtain ⟨left, after, finished, agree⟩ := ledger.agree.finish found
  unfold Link.settle
  rw [finished]
  exact ⟨ledger.covers, agree, ledger.underflows⟩

/-- Completions that were collected go back, and the work with them. -/
theorem collect {completions : List Completion}
    (ledger : Ledger nodes size (Completion.buffersOf completions)
      (Pi.single id completions.length) link)
    (found : link.registry.queues.get? id = some queue) (events now : Nat) :
    Ledger nodes size 0 0 (link.collect id events completions now).2 := by
  unfold Link.collect
  by_cases none : completions.isEmpty = true
  · rw [if_pos none]
    rw [List.isEmpty_iff.1 none, List.length_nil, Pi.single_zero] at ledger
    exact ledger
  · rw [if_neg none]
    have held := ledger.covers
    rw [Completion.buffersOf_eq] at held
    obtain ⟨covers, same⟩ := held.giveBackAll
    have returned := ledger.of_covers covers same
    have settled := returned.settle found
    exact settled.of_spares (.finishAll id now completions (_, _))

theorem poll (ledger : Ledger nodes size 0 0 link) (id : QueueId) (budget : Nat) :
    Ledger nodes size (Completion.buffersOf (link.datapath.device.poll id budget).1)
      (Pi.single id (link.datapath.device.poll id budget).1.length)
      { link with
        datapath := { link.datapath with device := (link.datapath.device.poll id budget).2 } } := by
  obtain ⟨-, -, buffers, mapped⟩ := link.datapath.device.poll_eq id budget
  obtain ⟨lend, counted⟩ := ledger.covers
  rw [zero_add] at lend counted
  refine ⟨⟨?_, ?_⟩, ledger.agree.poll id budget, ledger.underflows⟩
  · rw [buffers]
    exact lend
  · rw [buffers, ← counted]
    exact mapped

theorem drain (ledger : Ledger nodes size 0 0 link) (id : QueueId) (budget : Option Nat)
    (now : Nat) : Ledger nodes size 0 0 (link.drain id budget now).2 := by
  unfold Link.drain
  cases found : link.registry.queue id with
  | error error => exact ledger
  | ok queue =>
      have present := Registry.queue_eq_ok_iff.1 found
      have heard := ledger.of_spares (.takeEvents link id)
      exact (heard.poll id _).collect present _ now

theorem work (ledger : Ledger nodes size 0 0 link) (id : QueueId) (budget now : Nat) :
    Ledger nodes size 0 0 (link.work id budget now) := by
  rcases link.work_cases id budget now with result | ⟨datapath, limit, woken, result⟩
  · rw [result]
    exact ledger.drain id none now
  · have taken := ledger.of_spares (.takeEvent link id)
    rw [woken] at taken
    have batches : Ledger nodes size 0 0
        (drainBatches id budget now limit { link with datapath }) :=
      drainBatches_induct (fun _ reached => reached.drain id (some budget) now) limit taken
    rw [result]
    exact batches.drain id none now

/-- Every operation of the packet path ends with an empty hand and nothing owed. -/
theorem linkOp (ledger : Ledger nodes size 0 0 link) (small : size < wordSize) (now : Nat)
    (op : LinkOp) : Ledger nodes size 0 0 (op.apply now link) := by
  cases op with
  | send packet latency => exact ledger.send small packet latency now
  | postReceive id number => exact ledger.postReceive small id number
  | drain id budget => exact ledger.drain id budget now
  | takeEvent id => exact ledger.of_spares (.takeEvent link id)
  | work id budget => exact ledger.work id budget now

end Ledger

end Link

end FlowSteer
