import FlowSteer.Proofs.Buffers.Rings
import FlowSteer.Proofs.Link.Accounts
import FlowSteer.Proofs.Link.Outcomes

/-!
# What sending and receiving leave alone

Sending and receiving touch pools, mappings, descriptors in flight and statistics of the datapath.
Whatever is looked at and does not depend on these is the same afterwards:

* `Datapath.BlindToBuffers`: what buffers that are taken, mapped and given back leave alone;
* `Datapath.BlindToTransfers`: what does not depend on descriptors in flight and statistics either,
  with `BlindToTransfers.send` and `BlindToTransfers.postReceive`.
-/

namespace FlowSteer

namespace Datapath

variable {β : Type} {look : Datapath → β}

/-- What is looked at does not depend on buffers and mappings. -/
structure BlindToBuffers (look : Datapath → β) : Prop where
  buffers : ∀ (datapath : Datapath) (pools : Pools) (nextAddress mapped faults : Nat),
    look { datapath with
      pools
      device := { datapath.device with nextAddress, mapped, faults } } = look datapath

/-- What is looked at does not depend on what sending and receiving change. -/
structure BlindToTransfers (look : Datapath → β) : Prop extends BlindToBuffers look where
  inFlight : ∀ (datapath : Datapath) (id : QueueId) (descriptors : List Descriptor),
    look { datapath with
      device := datapath.device.putRing id ((datapath.device.ring id).submit descriptors) } =
        look datapath
  counts : ∀ (datapath : Datapath) (stats : LinkStats) (latency : Histogram),
    look { datapath with stats, latency } = look datapath

namespace BlindToBuffers

theorem takeBuffer (blind : BlindToBuffers look) (datapath : Datapath) (node : NodeId)
    (direction : Direction) : look (datapath.takeBuffer node direction).2 = look datapath := by
  unfold Datapath.takeBuffer
  cases datapath.pools.alloc node with
  | mk outcome pools =>
      cases outcome with
      | error error => rfl
      | ok buffer =>
          unfold Device.mapBuffer
          by_cases faulty : 0 < datapath.device.faults
          · simp only [faulty, if_true]
            exact blind.buffers datapath _ _ _ _
          · simp only [faulty, if_false]
            exact blind.buffers datapath _ _ _ _

theorem giveBackAll (blind : BlindToBuffers look) (mappings : List Mapping)
    (datapath : Datapath) : look (mappings.foldl Datapath.giveBack datapath) = look datapath := by
  induction mappings generalizing datapath with
  | nil => rfl
  | cons mapping rest ih => exact (ih _).trans (blind.buffers datapath _ _ _ _)

theorem takeReceiveBuffers (blind : BlindToBuffers look) (node : NodeId) (number : Nat)
    (datapath : Datapath) :
    look (Datapath.takeReceiveBuffers node number datapath).2.2 = look datapath := by
  induction number generalizing datapath with
  | zero => rfl
  | succ number ih =>
      have first := blind.takeBuffer datapath node .rx
      unfold Datapath.takeReceiveBuffers
      cases taken : datapath.takeBuffer node .rx with
      | mk outcome rest =>
          rw [taken] at first
          cases outcome with
          | error error => exact first
          | ok mapping => exact (ih rest).trans first

end BlindToBuffers

namespace BlindToTransfers

/-- Descriptors are refused, taken back, or with the device. -/
theorem submit (blind : BlindToTransfers look) (link : Link) (id : QueueId)
    (descriptors : List Descriptor) :
    look (link.submit id descriptors).2.datapath = look link.datapath := by
  rcases link.submit_cases id descriptors with
    ⟨_, _, result⟩ | ⟨_, _, _, result⟩ | ⟨device, taken, result⟩
  · rw [result]
  · rw [result]
    exact blind.giveBackAll _ link.datapath
  · have handed := Device.eq_of_submit taken
    subst handed
    rw [result]
    exact blind.inFlight link.datapath id descriptors

theorem account (blind : BlindToTransfers look) (link : Link) (id : QueueId) (flow : FlowId)
    (bytes : Nat) (direction : Direction) (now : Nat) :
    look (link.account id flow bytes direction now).datapath = look link.datapath := by
  rcases link.datapath_account id flow bytes direction now with same | same
  · rw [same]
  · rw [same]
    exact blind.counts link.datapath _ _

/-- Sending takes a buffer, and hands over a descriptor or gives the buffer back. -/
theorem send (blind : BlindToTransfers look) (link : Link) (packet : Packet) (latency now : Nat) :
    look (link.send packet latency now).2.datapath = look link.datapath := by
  rcases link.send_cases packet latency now with
    ⟨_, result⟩ | ⟨id, queue, _, _,
      ⟨_, datapath, refused, result⟩ | ⟨mapping, datapath, held, ends⟩⟩
  · rw [result]
  · have taken := blind.takeBuffer link.datapath queue.node .tx
    rw [refused] at taken
    rw [result]
    exact (blind.counts datapath _ _).trans taken
  · have taken := blind.takeBuffer link.datapath queue.node .tx
    rw [held] at taken
    have submitted := blind.submit { link with datapath } id [packet.descriptor mapping]
    rcases ends with ⟨_, after, refused, result⟩ | ⟨after, handed, result⟩
    · rw [refused] at submitted
      rw [result]
      exact (blind.counts after.datapath _ _).trans (submitted.trans taken)
    · rw [handed] at submitted
      rw [result]
      have accounted := blind.account (after.count fun stats =>
        { stats with
          txPackets := stats.txPackets + 1
          txBytes := stats.txBytes + packet.len }) id packet.flow packet.len .tx now
      exact (blind.counts _ _ _).trans (accounted.trans
        ((blind.counts after.datapath _ _).trans (submitted.trans taken)))

/-- Receiving takes buffers, and hands over descriptors or gives the buffers back. -/
theorem postReceive (blind : BlindToTransfers look) (link : Link) (id : QueueId) (number : Nat) :
    look (link.postReceive id number).2.datapath = look link.datapath := by
  rcases link.postReceive_cases id number with
    ⟨_, result⟩ | ⟨queue, descriptors, refusal, datapath, _, taken, ends⟩
  · rw [result]
  · have held := blind.takeReceiveBuffers queue.node number link.datapath
    rw [taken] at held
    have submitted := blind.submit { link with datapath } id descriptors
    rcases ends with ⟨_, _, result⟩ | ⟨_, after, refused, result⟩ | ⟨after, handed, result⟩
    · rw [result]
      exact held
    · rw [refused] at submitted
      rw [result]
      exact submitted.trans held
    · rw [handed] at submitted
      rw [result]
      exact (blind.counts after.datapath _ _).trans (submitted.trans held)

end BlindToTransfers

end Datapath

end FlowSteer
