import Mathlib.Algebra.Order.Group.Multiset
import FlowSteer.Proofs.Maps
import FlowSteer.Proofs.Runs

/-!
# Buffers that the device holds

The device holds the buffers of all descriptors in its rings, in flight or completed. Completing a
descriptor moves it within its ring, so that the device by itself keeps the buffers of every ring
(`DeviceOp.keepsBuffers`); only handing descriptors over (`eq_of_submit`, `buffers_submit`) and
collecting completions (`buffers_poll`) changes what it holds.
-/

namespace FlowSteer

/-- Buffers of some descriptors. -/
def Descriptor.buffersOf (descriptors : List Descriptor) : Multiset Buffer :=
  (descriptors.map fun descriptor => descriptor.mapping.buffer : List Buffer)

/-- Buffers of some completions. -/
def Completion.buffersOf (completions : List Completion) : Multiset Buffer :=
  (completions.map fun completion => completion.mapping.buffer : List Buffer)

open Descriptor (buffersOf)

theorem Descriptor.buffersOf_append (first second : List Descriptor) :
    buffersOf (first ++ second) = buffersOf first + buffersOf second := by
  unfold buffersOf
  rw [List.map_append, Multiset.coe_add]

theorem Descriptor.card_buffersOf (descriptors : List Descriptor) :
    Multiset.card (buffersOf descriptors) = descriptors.length := by
  unfold buffersOf
  rw [Multiset.coe_card, List.length_map]

theorem Descriptor.buffersOf_eq (descriptors : List Descriptor) :
    buffersOf descriptors = ((descriptors.map (·.mapping)).map (·.buffer) : List Buffer) := by
  rw [List.map_map]
  rfl

theorem Completion.buffersOf_append (first second : List Completion) :
    Completion.buffersOf (first ++ second) =
      Completion.buffersOf first + Completion.buffersOf second := by
  unfold Completion.buffersOf
  rw [List.map_append, Multiset.coe_add]

theorem Completion.card_buffersOf (completions : List Completion) :
    Multiset.card (Completion.buffersOf completions) = completions.length := by
  unfold Completion.buffersOf
  rw [Multiset.coe_card, List.length_map]

theorem Completion.buffersOf_eq (completions : List Completion) :
    Completion.buffersOf completions =
      ((completions.map Completion.mapping).map (·.buffer) : List Buffer) := by
  rw [List.map_map]
  rfl

/-! ## One ring -/

namespace Ring

/-- Buffers of the descriptors in flight and of those completed. -/
def buffers (ring : Ring) : Multiset Buffer :=
  buffersOf ring.inFlight + Completion.buffersOf ring.completed

theorem card_buffers (ring : Ring) :
    Multiset.card ring.buffers = ring.inFlight.length + ring.completed.length := by
  rw [buffers, Multiset.card_add, Descriptor.card_buffersOf, Completion.card_buffersOf]

theorem buffers_submit (ring : Ring) (descriptors : List Descriptor) :
    (ring.submit descriptors).buffers = ring.buffers + buffersOf descriptors := by
  show buffersOf (ring.inFlight ++ descriptors) + _ = _
  rw [Descriptor.buffersOf_append, add_right_comm]
  rfl

theorem perm_of_find? {descriptors : List Descriptor} {asked : Descriptor → Bool}
    {descriptor : Descriptor} (found : descriptors.find? asked = some descriptor) :
    (descriptor :: descriptors.eraseP asked).Perm descriptors := by
  obtain ⟨isAsked, earlier, later, order, unasked⟩ := List.find?_eq_some_iff_append.1 found
  have skipped : ∀ other ∈ earlier, ¬asked other = true := by
    intro other member
    simpa using unasked other member
  rw [order, List.eraseP_append_right _ skipped, List.eraseP_cons_of_pos isAsked]
  exact List.perm_middle.symm

/-- Completing a descriptor leaves its buffer in the ring. -/
theorem buffers_of_finish {ring after : Ring} {asked : Descriptor → Bool}
    {complete : Descriptor → Completion}
    (same : ∀ descriptor, (complete descriptor).descriptor = descriptor)
    (finished : ring.finish? asked complete = some after) : after.buffers = ring.buffers := by
  obtain ⟨descriptor, found, rfl⟩ := Option.map_eq_some_iff.1 finished
  have taken : buffersOf (descriptor :: ring.inFlight.eraseP asked) = buffersOf ring.inFlight :=
    Multiset.coe_eq_coe.2 ((perm_of_find? found).map _)
  have moved : Completion.buffersOf [complete descriptor] = buffersOf [descriptor] := by
    show (([(complete descriptor).descriptor.mapping.buffer] : List Buffer) : Multiset Buffer) = _
    rw [same]
    rfl
  show buffersOf (ring.inFlight.eraseP asked) +
    Completion.buffersOf (ring.completed ++ [complete descriptor]) = _
  rw [Completion.buffersOf_append, moved, ← add_assoc, add_right_comm,
    add_comm (buffersOf (ring.inFlight.eraseP asked)), ← Descriptor.buffersOf_append]
  exact congrArg (· + Completion.buffersOf ring.completed) taken

theorem buffers_poll (ring : Ring) (budget : Nat) :
    Completion.buffersOf (ring.poll budget).1 + (ring.poll budget).2.buffers = ring.buffers := by
  show Completion.buffersOf (ring.completed.take budget) +
    (buffersOf ring.inFlight + Completion.buffersOf (ring.completed.drop budget)) = _
  rw [add_left_comm, ← Completion.buffersOf_append, List.take_append_drop]
  rfl

end Ring

/-! ## All rings -/

namespace Device

/-- Buffers of all descriptors in the rings. -/
def buffers (device : Device) : Multiset Buffer := device.rings.total Ring.buffers

variable {device before middle after : Device}

/-- There is one buffer for each descriptor. -/
theorem card_buffers (device : Device) :
    Multiset.card device.buffers =
      device.rings.total fun ring => ring.inFlight.length + ring.completed.length := by
  have counted := map_list_sum Multiset.cardHom (device.rings.values.map Ring.buffers)
  rw [List.map_map] at counted
  rw [buffers, IdMap.total_eq_sum, IdMap.total_eq_sum]
  refine counted.trans (congrArg List.sum ?_)
  exact List.map_congr_left fun ring _ => ring.card_buffers

theorem ring_putRing (device : Device) (id other : QueueId) (ring : Ring) :
    (device.putRing id ring).ring other = if other = id then ring else device.ring other := by
  unfold Device.ring putRing
  rw [IdMap.get?_insert]
  split <;> rfl

theorem buffers_putRing (device : Device) (id : QueueId) (ring : Ring) :
    (device.putRing id ring).buffers + (device.ring id).buffers =
      device.buffers + ring.buffers := by
  have summed := device.rings.total_insert Ring.buffers id ring
  have held : ((device.rings.get? id).map Ring.buffers).getD 0 = (device.ring id).buffers := by
    unfold Device.ring
    cases device.rings.get? id <;> rfl
  rwa [held] at summed

/-- What one ring holds the device holds. -/
theorem buffers_ring_le (device : Device) (id : QueueId) :
    (device.ring id).buffers ≤ device.buffers := by
  have emptied := device.buffers_putRing id {}
  have none : ({} : Ring).buffers = 0 := rfl
  rw [none, add_zero] at emptied
  rw [← emptied]
  exact Multiset.le_add_left _ _

/-- Each ring holds the same buffers, and as many are mapped. -/
structure KeepsBuffers (before after : Device) : Prop where
  rings : ∀ id, (after.ring id).buffers = (before.ring id).buffers
  buffers : after.buffers = before.buffers
  mapped : after.mapped = before.mapped

namespace KeepsBuffers

theorem refl (device : Device) : KeepsBuffers device device := ⟨fun _ => rfl, rfl, rfl⟩

theorem trans (first : KeepsBuffers before middle) (second : KeepsBuffers middle after) :
    KeepsBuffers before after where
  rings := fun id => (second.rings id).trans (first.rings id)
  buffers := second.buffers.trans first.buffers
  mapped := second.mapped.trans first.mapped

theorem of_rings (rings : after.rings = before.rings) (mapped : after.mapped = before.mapped) :
    KeepsBuffers before after where
  rings := by
    intro id
    unfold Device.ring
    rw [rings]
  buffers := by
    unfold Device.buffers
    rw [rings]
  mapped := mapped

theorem putRing {id : QueueId} {ring : Ring} (same : ring.buffers = (device.ring id).buffers) :
    KeepsBuffers device (device.putRing id ring) where
  rings := by
    intro other
    rw [ring_putRing]
    split
    · rename_i equal
      rw [equal, same]
    · rfl
  buffers := by
    have summed := device.buffers_putRing id ring
    rw [same] at summed
    exact add_right_cancel summed
  mapped := rfl

theorem finish (device : Device) (id : QueueId) (asked : Descriptor → Bool)
    {complete : Descriptor → Completion}
    (same : ∀ descriptor, (complete descriptor).descriptor = descriptor) :
    KeepsBuffers device (device.finish id asked complete).2 := by
  unfold Device.finish
  cases finished : (device.ring id).finish? asked complete with
  | none => exact .refl device
  | some ring =>
      have moved : KeepsBuffers device (device.putRing id ring) :=
        .putRing (Ring.buffers_of_finish same finished)
      exact moved.trans (.of_rings rfl rfl)

theorem completeSendsUpTo (id : QueueId) (limit : Nat) (device : Device) :
    KeepsBuffers device (Device.completeSendsUpTo id limit device).2 := by
  induction limit generalizing device with
  | zero => exact .refl device
  | succ limit ih =>
      have finished : KeepsBuffers device
          (device.finish id (·.direction == .tx) (·.completeAs .ok)).2 :=
        .finish device id _ fun _ => rfl
      unfold Device.completeSendsUpTo
      cases result : device.finish id (·.direction == .tx) (·.completeAs .ok) with
      | mk done rest =>
          rw [result] at finished
          cases done with
          | false => exact finished
          | true => exact finished.trans (ih rest)

end KeepsBuffers

/-! ## Handing over and collecting -/

/-- Descriptors that the device takes go to the ring of the queue. -/
theorem eq_of_submit {device after : Device} {id : QueueId} {descriptors : List Descriptor}
    (taken : device.submit id descriptors = (.ok (), after)) :
    after = device.putRing id ((device.ring id).submit descriptors) := by
  unfold submit at taken
  split at taken
  · cases congrArg Prod.fst taken
  · exact (congrArg Prod.snd taken).symm

theorem buffers_submit (device : Device) (id : QueueId) (descriptors : List Descriptor) :
    (device.putRing id ((device.ring id).submit descriptors)).buffers =
      device.buffers + buffersOf descriptors := by
  have summed := device.buffers_putRing id ((device.ring id).submit descriptors)
  rw [Ring.buffers_submit, add_comm (device.ring id).buffers, ← add_assoc] at summed
  exact add_right_cancel summed

/-- A device polled for completions gives up those of one ring. -/
theorem poll_eq (device : Device) (id : QueueId) (budget : Nat) :
    (device.poll id budget).1 = ((device.ring id).poll budget).1 ∧
      (∀ other, (device.poll id budget).2.ring other =
        if other = id then ((device.ring id).poll budget).2 else device.ring other) ∧
      Completion.buffersOf (device.poll id budget).1 + (device.poll id budget).2.buffers =
        device.buffers ∧
      (device.poll id budget).2.mapped = device.mapped := by
  unfold poll
  cases found : device.rings.get? id with
  | none =>
      have empty : device.ring id = {} := by
        unfold Device.ring
        rw [found]
        rfl
      refine ⟨?_, ?_, zero_add _, rfl⟩
      · rw [empty]
        exact List.take_nil.symm
      · intro other
        show device.ring other = _
        by_cases same : other = id
        · rw [if_pos same, same, empty]
          exact congrArg (Ring.mk []) List.drop_nil.symm
        · rw [if_neg same]
  | some ring =>
      have held : device.ring id = ring := by
        unfold Device.ring
        rw [found]
        rfl
      rw [held]
      refine ⟨rfl, fun other => ring_putRing device id other _, ?_, rfl⟩
      have summed := device.buffers_putRing id (ring.poll budget).2
      have polled := ring.buffers_poll budget
      rw [held, ← polled, add_comm (Completion.buffersOf _), ← add_assoc,
        add_right_comm] at summed
      have whole := add_right_cancel summed
      rw [add_comm]
      exact whole

end Device

/-- The device by itself keeps the buffers of every ring. -/
theorem DeviceOp.keepsBuffers (device : Device) (op : DeviceOp) :
    Device.KeepsBuffers device (op.apply device) := by
  cases op with
  | complete id status => exact .finish device id _ fun _ => rfl
  | receive id flow len => exact .finish device id _ fun _ => rfl
  | completeSends id => exact .completeSendsUpTo id _ device
  | injectFaults count => exact .of_rings rfl rfl
  | attach id capacity =>
      show Device.KeepsBuffers device (device.attach id capacity).2
      unfold Device.attach
      split
      · exact .refl device
      · exact .of_rings rfl rfl
  | detach id => exact .of_rings rfl rfl
  | setAffinity id cpu => exact .of_rings rfl rfl
  | setInterval id usecs => exact .of_rings rfl rfl

end FlowSteer
