import FlowSteer.Proofs.Device.Progress

/-!
# Transport of descriptors

A descriptor that the device takes is in flight, then completed, then collected. What passed through
the ring of a queue in some sequence of operations is kept in three logs (`Passage`).

1. `RingOp`, `Device.play`: descriptors are submitted, the device acts by itself, and completions are
   polled, in any order and for any queues.
2. `Passage.Through`: how the logs of a queue and its ring fit together; `through_step` says that
   each operation keeps it.
3. `Device.transports_play`: so no descriptor is lost, doubled or overtaken by one of its own
   direction.
-/

namespace FlowSteer

open Descriptor (along along_append)
open Completion (descriptors descriptors_append)

/-! ## Operations on rings -/

/-- An operation on the rings of the device. -/
inductive RingOp where
  | submit (id : QueueId) (descriptors : List Descriptor)
  /-- The device completes descriptors, or does something that is no business of its rings. -/
  | act (op : DeviceOp)
  | poll (id : QueueId) (budget : Nat)

/-- The device after an operation. -/
def RingOp.apply (device : Device) : RingOp → Device
  | submit id descriptors => (device.submit id descriptors).2
  | act op => op.apply device
  | poll id budget => (device.poll id budget).2

/-- The device after a sequence of operations. -/
def Device.play (device : Device) (operations : List RingOp) : Device :=
  operations.foldl RingOp.apply device

/-- What passed through the ring of one queue, in order. -/
structure Passage where
  /-- Descriptors that the device took. -/
  accepted : List Descriptor := []
  /-- Completions that the device made. -/
  finished : List Completion := []
  /-- Completions that were collected. -/
  polled : List Completion := []

/-- What passes in addition. -/
def Passage.append (first second : Passage) : Passage where
  accepted := first.accepted ++ second.accepted
  finished := first.finished ++ second.finished
  polled := first.polled ++ second.polled

/-- What passes through the ring of a queue in one operation. The completions that the device makes
are those that come up at the end of the completed ones. -/
def RingOp.passage (id : QueueId) (device : Device) : RingOp → Passage
  | submit other descriptors =>
      match (device.submit other descriptors).1 with
      | .ok () => { accepted := if other = id then descriptors else [] }
      | .error _ => {}
  | act op =>
      { finished := ((op.apply device).ring id).completed.drop (device.ring id).completed.length }
  | poll other budget => { polled := if other = id then (device.poll other budget).1 else [] }

/-- What passes through the ring of a queue in a sequence of operations. -/
def Device.passage (id : QueueId) : Device → List RingOp → Passage
  | _, [] => {}
  | device, op :: rest => (op.passage id device).append ((op.apply device).passage id rest)

/-! ## One queue -/

/-- Completions are polled in the order in which they were made, and descriptors of one direction
complete in the order in which they were submitted. -/
structure Passage.Through (passage : Passage) (ring : Ring) : Prop where
  finished : passage.finished = passage.polled ++ ring.completed
  accepted : ∀ direction, along direction passage.accepted =
    along direction (descriptors passage.finished) ++ along direction ring.inFlight
  lengths : ∀ completion ∈ passage.finished, completion.len ≤ completion.descriptor.len

namespace Passage.Through

variable {passage : Passage} {ring after : Ring}

theorem submit (through : passage.Through ring) (submitted : List Descriptor) :
    (passage.append { accepted := submitted }).Through (ring.submit submitted) where
  finished := by
    simp only [append, List.append_nil]
    exact through.finished
  accepted := by
    intro direction
    simp only [append, List.append_nil, Ring.submit]
    rw [along_append, along_append, through.accepted, List.append_assoc]
  lengths := by
    simp only [append, List.append_nil]
    exact through.lengths

theorem progress (through : passage.Through ring) {made : List Completion}
    (progress : Ring.Progress made ring after) :
    (passage.append { finished := made }).Through after where
  finished := by
    simp only [append, List.append_nil]
    rw [through.finished, progress.completed, List.append_assoc]
  accepted := by
    intro direction
    simp only [append, List.append_nil]
    rw [through.accepted, progress.inFlight, descriptors_append, along_append, List.append_assoc]
  lengths := by
    intro completion member
    rcases List.mem_append.1 member with early | late
    · exact through.lengths completion early
    · exact progress.lengths completion late

theorem poll (through : passage.Through ring) (budget : Nat) :
    (passage.append { polled := (ring.poll budget).1 }).Through (ring.poll budget).2 where
  finished := by
    simp only [append, List.append_nil, Ring.poll]
    rw [through.finished, List.append_assoc, List.take_append_drop]
  accepted := by
    simp only [append, List.append_nil]
    exact through.accepted
  lengths := by
    simp only [append, List.append_nil]
    exact through.lengths

theorem nothing (through : passage.Through ring) : (passage.append {}).Through ring := by
  unfold append
  simp only [List.append_nil]
  exact through

/-- Nothing is lost or doubled: what was accepted is in flight, waits to be polled, or was polled. -/
theorem conserved (through : passage.Through ring) :
    (passage.accepted : Multiset Descriptor) = ring.inFlight +
      (descriptors ring.completed : Multiset Descriptor) + descriptors passage.polled := by
  have permuted : passage.accepted.Perm (descriptors passage.finished ++ ring.inFlight) := by
    apply Descriptor.perm_of_along
    intro direction
    rw [through.accepted, along_append]
  rw [Multiset.coe_eq_coe.2 permuted, through.finished, descriptors_append, ← Multiset.coe_add,
    ← Multiset.coe_add, add_comm, add_comm (descriptors passage.polled : Multiset Descriptor),
    add_assoc]

end Passage.Through

theorem Passage.append_assoc (first second third : Passage) :
    (first.append second).append third = first.append (second.append third) := by
  simp only [append, List.append_assoc]

/-! ## All operations -/

namespace Device

variable {device after : Device} {id : QueueId} {passage : Passage}

/-- A device that refuses descriptors is left as it was. -/
theorem eq_of_refused {submitted : List Descriptor} {error : ControlError}
    (refused : device.submit id submitted = (.error error, after)) : after = device := by
  unfold submit at refused
  split at refused
  · exact (congrArg Prod.snd refused).symm
  · cases congrArg Prod.fst refused

/-- What an operation passes through a ring fits together with what passed before. -/
theorem through_step (through : passage.Through (device.ring id)) (op : RingOp) :
    (passage.append (op.passage id device)).Through ((op.apply device).ring id) := by
  cases op with
  | submit other submitted =>
      simp only [RingOp.passage, RingOp.apply]
      cases result : device.submit other submitted with
      | mk outcome after =>
          cases outcome with
          | error error =>
              rw [eq_of_refused result]
              exact through.nothing
          | ok _ =>
              rw [eq_of_submit result, ring_putRing]
              by_cases same : other = id
              · rw [if_pos same, if_pos same.symm, same]
                exact through.submit submitted
              · rw [if_neg same, if_neg (Ne.symm same)]
                exact through.nothing
  | act op =>
      obtain ⟨made, progress⟩ := (DeviceOp.progress device op).ring id
      have added : ((op.apply device).ring id).completed.drop (device.ring id).completed.length =
          made := by rw [progress.completed, List.drop_left]
      simp only [RingOp.passage, RingOp.apply]
      rw [added]
      exact through.progress progress
  | poll other budget =>
      obtain ⟨polled, rings, _, _⟩ := device.poll_eq other budget
      simp only [RingOp.passage, RingOp.apply]
      rw [rings, polled]
      by_cases same : other = id
      · rw [if_pos same, if_pos same.symm, same]
        exact through.poll budget
      · rw [if_neg same, if_neg (Ne.symm same)]
        exact through.nothing

theorem through_play (through : passage.Through (device.ring id)) (operations : List RingOp) :
    (passage.append (device.passage id operations)).Through
      ((device.play operations).ring id) := by
  induction operations generalizing device passage with
  | nil => exact through.nothing
  | cons op rest ih =>
      have later := ih (through_step through op)
      rw [Passage.append_assoc] at later
      exact later

theorem bounded_step (bounded : device.Bounded) (op : RingOp) : (op.apply device).Bounded := by
  cases op with
  | submit id submitted =>
      cases result : device.submit id submitted with
      | mk outcome after =>
          simp only [RingOp.apply, result]
          cases outcome with
          | error error =>
              rw [eq_of_refused result]
              exact bounded
          | ok _ => exact bounded.submit result
  | act op => exact bounded.deviceOp op
  | poll id budget => exact bounded.poll id budget

theorem bounded_play (bounded : device.Bounded) (operations : List RingOp) :
    (device.play operations).Bounded := by
  induction operations generalizing device with
  | nil => exact bounded
  | cons op rest ih => exact ih (bounded_step bounded op)

theorem ringCapacity_step (device : Device) (op : RingOp) :
    (op.apply device).ringCapacity = device.ringCapacity := by
  cases op with
  | submit id submitted =>
      simp only [RingOp.apply, submit]
      split <;> rfl
  | act op => exact (DeviceOp.progress device op).capacity
  | poll id budget =>
      simp only [RingOp.apply, poll]
      split <;> rfl

theorem ringCapacity_play (device : Device) (operations : List RingOp) :
    (device.play operations).ringCapacity = device.ringCapacity := by
  induction operations generalizing device with
  | nil => rfl
  | cons op rest ih => exact (ih _).trans (ringCapacity_step device op)

/-- What passed through the ring of a queue is transported faithfully, and the next operation on the
queue will be no exception. -/
structure Transports (room : Nat) (id : QueueId) (passage : Passage) (device : Device) : Prop where
  /-- Each accepted descriptor is in flight, waits to be polled, or was polled. -/
  conserved : (passage.accepted : Multiset Descriptor) = (device.ring id).inFlight +
    (descriptors (device.ring id).completed : Multiset Descriptor) + descriptors passage.polled
  /-- Completions are polled in the order in which they were made. -/
  polled : passage.finished = passage.polled ++ (device.ring id).completed
  /-- Descriptors of one direction complete in the order in which they were submitted. -/
  inOrder : ∀ direction, along direction passage.accepted =
    along direction (descriptors passage.finished) ++ along direction (device.ring id).inFlight
  lengths : ∀ completion ∈ passage.finished, completion.len ≤ completion.descriptor.len
  bounded : device.inFlight id ≤ room
  busy : ∀ {submitted error after}, device.submit id submitted = (.error error, after) →
    ∀ other, after.ring other = device.ring other
  sends : CompletesSends id device (device.completeSends id).1 (device.completeSends id).2
  /-- The steps end by themselves, not because of the bound on their number. -/
  ends : ∀ {limit}, (device.completeSends id).1 ≤ limit →
    completeSendsUpTo id limit device = device.completeSends id

/-- A device without descriptors loses, doubles or reorders none afterwards. -/
theorem transports_play (room : Nat) (operations : List RingOp) (id : QueueId) :
    let idle : Device := { ringCapacity := room }
    (idle.play operations).Transports room id (idle.passage id operations) := by
  intro idle
  have empty : Passage.Through {} (idle.ring id) := ⟨rfl, fun _ => rfl, nofun⟩
  have through : (idle.passage id operations).Through ((idle.play operations).ring id) :=
    through_play empty operations
  have bounded : (idle.play operations).Bounded := bounded_play (fun _ => Nat.zero_le _) operations
  have sends := (idle.play operations).completesSends id
  constructor
  case conserved => exact through.conserved
  case polled => exact through.finished
  case inOrder => exact through.accepted
  case lengths => exact through.lengths
  case bounded => exact (bounded id).trans_eq (ringCapacity_play idle operations)
  case busy =>
    intro submitted error after refused other
    rw [eq_of_refused refused]
  case sends => exact sends
  case ends => exact fun enough => (completeSends_eq_upTo (sends.number ▸ enough)).symm

end Device

end FlowSteer
