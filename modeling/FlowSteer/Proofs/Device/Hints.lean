import FlowSteer.Proofs.Link.Emptying
import FlowSteer.Proofs.Link.Frames

/-!
# Hints

The hints of a device are what it was told last about each queue: a processor and a coalescing
interval. They change only when the device is told something else:

* `DeviceOp.hints_apply`: the device by itself keeps its hints;
* `LinkOp.hints_apply`: so does the packet path.
-/

namespace FlowSteer

namespace Device

variable {device : Device}

/-- Processor and coalescing interval last programmed for each queue. -/
def hints (device : Device) : IdMap CpuId × IdMap Nat := (device.affinity, device.coalescing)

@[simp] theorem hints_attach (device : Device) (id : QueueId) (capacity : Nat) :
    (device.attach id capacity).2.hints = device.hints := by
  unfold attach
  split <;> rfl

@[simp] theorem hints_finish (device : Device) (id : QueueId) (asked : Descriptor → Bool)
    (complete : Descriptor → Completion) :
    (device.finish id asked complete).2.hints = device.hints := by
  unfold finish
  cases (device.ring id).finish? asked complete <;> rfl

@[simp] theorem hints_completeSendsUpTo (id : QueueId) (limit : Nat) (device : Device) :
    (completeSendsUpTo id limit device).2.hints = device.hints := by
  induction limit generalizing device with
  | zero => rfl
  | succ limit ih =>
      have finished := device.hints_finish id (·.direction == .tx) (·.completeAs .ok)
      unfold completeSendsUpTo
      cases result : device.finish id (·.direction == .tx) (·.completeAs .ok) with
      | mk done rest =>
          rw [result] at finished
          cases done with
          | false => exact finished
          | true => exact (ih rest).trans finished

end Device

/-- Does the operation tell the device something about a queue. -/
def DeviceOp.setsHints : DeviceOp → Bool
  | setAffinity .. | setInterval .. => true
  | _ => false

/-- The device by itself keeps its hints. -/
theorem DeviceOp.hints_apply (device : Device) {op : DeviceOp} (silent : op.setsHints = false) :
    (op.apply device).hints = device.hints := by
  cases op with
  | complete id status => exact device.hints_finish id _ _
  | receive id flow len => exact device.hints_finish id _ _
  | completeSends id => exact device.hints_completeSendsUpTo id _
  | injectFaults count => rfl
  | attach id capacity => exact device.hints_attach id capacity
  | detach id => rfl
  | setAffinity id cpu => cases silent
  | setInterval id usecs => cases silent

namespace Datapath

/-- Hints of the device. -/
def hints (datapath : Datapath) : IdMap CpuId × IdMap Nat := datapath.device.hints

theorem hints_blindToTransfers : BlindToTransfers hints :=
  ⟨⟨fun _ _ _ _ _ => rfl⟩, fun _ _ _ => rfl, fun _ _ _ => rfl⟩

@[simp] theorem hints_takeEvent (datapath : Datapath) (id : QueueId) :
    (datapath.takeEvent id).2.hints = datapath.hints := by
  rcases datapath.takeEvent_cases id with result | ⟨_, _, _, _, result⟩
  · rw [result]
  · rw [result]
    rfl

end Datapath

namespace Link

variable {now : Nat}

/-- Hints of the device. -/
def hints (link : Link) : IdMap CpuId × IdMap Nat := link.datapath.hints

theorem hints_drain (link : Link) (id : QueueId) (budget : Option Nat) :
    (link.drain id budget now).2.hints = link.hints := by
  cases found : link.registry.queues.get? id with
  | none =>
      rw [drain_of_absent found]
  | some queue =>
      unfold hints Datapath.hints
      rw [device_drain found]
      rfl

theorem hints_work (link : Link) (id : QueueId) (budget : Nat) :
    (link.work id budget now).hints = link.hints := by
  rcases link.work_cases id budget now with result | ⟨datapath, limit, woken, result⟩
  · rw [result]
    exact hints_drain link id none
  · have heard := link.datapath.hints_takeEvent id
    rw [woken] at heard
    have batches : (drainBatches id budget now limit { link with datapath }).hints =
        link.hints := by
      apply drainBatches_induct (motive := fun later => later.hints = link.hints)
      · exact fun later told => (hints_drain later id (some budget)).trans told
      · exact heard
    rw [result]
    exact (hints_drain _ id none).trans batches

end Link

/-- The packet path keeps the hints of the device. -/
theorem LinkOp.hints_apply (link : Link) (op : LinkOp) (now : Nat) :
    (op.apply now link).hints = link.hints := by
  cases op with
  | send packet latency => exact Datapath.hints_blindToTransfers.send link packet latency now
  | postReceive id number => exact Datapath.hints_blindToTransfers.postReceive link id number
  | drain id budget => exact link.hints_drain id budget
  | takeEvent id => exact link.datapath.hints_takeEvent id
  | work id budget => exact link.hints_work id budget

end FlowSteer
