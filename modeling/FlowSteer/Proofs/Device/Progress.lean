import FlowSteer.Proofs.Link.Invariants

/-!
# Progress on rings

The device may complete descriptors out of the order in which they were submitted, because it can
be asked for the oldest one of a direction. Among descriptors of one direction it always completes
the oldest.

1. `Descriptor.along`: the descriptors of one direction; lists that agree in each direction have the
   same descriptors (`Descriptor.perm_of_along`).
2. `Ring.Progress`: some descriptors of a ring complete, in each direction the oldest first.
   Completing one descriptor is such (`Ring.progress_of_finish`), and so is all that the device does
   by itself (`DeviceOp.progress`).
3. `Device.completesSends`: completing all transmit descriptors completes exactly these and stops by
   itself.
-/

namespace FlowSteer

/-! ## One direction -/

namespace Descriptor

/-- The descriptors of one direction, in order. -/
def along (direction : Direction) (descriptors : List Descriptor) : List Descriptor :=
  descriptors.filter (·.direction == direction)

variable {direction : Direction} {descriptor : Descriptor}

theorem along_append (direction : Direction) (first second : List Descriptor) :
    along direction (first ++ second) = along direction first ++ along direction second :=
  List.filter_append ..

theorem along_cons_of_eq (same : descriptor.direction = direction) (rest : List Descriptor) :
    along direction (descriptor :: rest) = descriptor :: along direction rest :=
  List.filter_cons_of_pos (beq_iff_eq.2 same)

theorem along_cons_of_ne (other : descriptor.direction ≠ direction) (rest : List Descriptor) :
    along direction (descriptor :: rest) = along direction rest :=
  List.filter_cons_of_neg (beq_iff_eq.not.2 other)

/-- Lists that agree in each direction have the same descriptors, each as often. -/
theorem perm_of_along {first second : List Descriptor}
    (same : ∀ direction, along direction first = along direction second) :
    first.Perm second := by
  rw [List.perm_iff_count]
  intro descriptor
  have kept : ∀ descriptors : List Descriptor,
      (along descriptor.direction descriptors).count descriptor = descriptors.count descriptor :=
    fun _ => List.count_filter (beq_self_eq_true descriptor.direction)
  rw [← kept, same, kept]

end Descriptor

open Descriptor (along along_append along_cons_of_eq along_cons_of_ne)

/-- The descriptors of some completions, in order. -/
def Completion.descriptors (completions : List Completion) : List Descriptor :=
  completions.map (·.descriptor)

theorem Completion.descriptors_append (first second : List Completion) :
    descriptors (first ++ second) = descriptors first ++ descriptors second :=
  List.map_append

/-! ## One ring -/

/-- Some descriptors of a ring complete, in each direction the oldest first. None is filled beyond
its length. -/
structure Ring.Progress (made : List Completion) (before after : Ring) : Prop where
  completed : after.completed = before.completed ++ made
  inFlight : ∀ direction, along direction before.inFlight =
    along direction (Completion.descriptors made) ++ along direction after.inFlight
  lengths : ∀ completion ∈ made, completion.len ≤ completion.descriptor.len

namespace Ring

variable {made more : List Completion} {before middle after : Ring}

theorem Progress.refl (ring : Ring) : Progress [] ring ring where
  completed := (List.append_nil _).symm
  inFlight := fun _ => rfl
  lengths := nofun

theorem Progress.trans (first : Progress made before middle)
    (second : Progress more middle after) : Progress (made ++ more) before after where
  completed := by rw [second.completed, first.completed, List.append_assoc]
  inFlight := by
    intro direction
    rw [first.inFlight, second.inFlight, Completion.descriptors_append, along_append,
      List.append_assoc]
  lengths := by
    intro completion member
    rcases List.mem_append.1 member with early | late
    · exact first.lengths completion early
    · exact second.lengths completion late

/-- The descriptors that a ring holds, in flight or completed. -/
def descriptors (ring : Ring) : List Descriptor :=
  ring.inFlight ++ Completion.descriptors ring.completed

/-- A ring that makes progress holds the same descriptors. -/
theorem Progress.perm (progress : Progress made before after) :
    after.descriptors.Perm before.descriptors := by
  have flown : (Completion.descriptors made ++ after.inFlight).Perm before.inFlight := by
    apply Descriptor.perm_of_along
    intro direction
    rw [progress.inFlight, along_append]
  unfold descriptors
  rw [progress.completed, Completion.descriptors_append, ← List.append_assoc]
  refine (List.perm_append_comm.trans ?_).trans (flown.append_right _)
  rw [← List.append_assoc]

/-- What is asked of a descriptor is its direction, if anything. -/
def AsksDirection (asked : Descriptor → Bool) : Prop :=
  ∀ first second : Descriptor, first.direction = second.direction → asked first = asked second

/-- The descriptors before one that completes travel in the other direction. -/
theorem progress_of_finish {asked : Descriptor → Bool} {complete : Descriptor → Completion}
    (asks : AsksDirection asked) (same : ∀ descriptor, (complete descriptor).descriptor = descriptor)
    (within : ∀ descriptor, (complete descriptor).len ≤ descriptor.len)
    (finished : before.finish? asked complete = some after) :
    ∃ descriptor, asked descriptor = true ∧ Progress [complete descriptor] before after := by
  obtain ⟨descriptor, found, rfl⟩ := Option.map_eq_some_iff.1 finished
  obtain ⟨isAsked, earlier, later, order, unasked⟩ := List.find?_eq_some_iff_append.1 found
  have passed : ∀ other ∈ earlier, ¬asked other = true := by
    intro other member
    simpa using unasked other member
  have erased : before.inFlight.eraseP asked = earlier ++ later := by
    rw [order, List.eraseP_append_right _ passed, List.eraseP_cons_of_pos isAsked]
  refine ⟨descriptor, isAsked, rfl, ?_, ?_⟩
  · intro direction
    show along direction before.inFlight =
      along direction [(complete descriptor).descriptor] ++ along direction (before.inFlight.eraseP asked)
    rw [same, erased, order, along_append, along_append]
    by_cases sameWay : descriptor.direction = direction
    · have none : along direction earlier = [] := by
        apply List.filter_eq_nil_iff.2
        intro other member equal
        apply passed other member
        rw [asks other descriptor ((beq_iff_eq.1 equal).trans sameWay.symm)]
        exact isAsked
      rw [none, along_cons_of_eq sameWay, along_cons_of_eq sameWay]
      rfl
    · rw [along_cons_of_ne sameWay, along_cons_of_ne sameWay]
      rfl
  · intro completion member
    rw [List.mem_singleton.1 member, same]
    exact within descriptor

theorem asksDirection_beq (direction : Direction) : AsksDirection (·.direction == direction) := by
  intro first second same
  simp only [same]

/-- Nothing completes only when nothing in flight is asked for. -/
theorem finish?_eq_none_iff {ring : Ring} {direction : Direction}
    {complete : Descriptor → Completion} :
    ring.finish? (·.direction == direction) complete = none ↔
      along direction ring.inFlight = [] := by
  unfold finish?
  rw [Option.map_eq_none_iff, List.find?_eq_none, along, List.filter_eq_nil_iff]

/-- A transmit descriptor completes before those submitted after it, and before no receive
descriptor. -/
theorem send_of_finish
    (finished : before.finish? (·.direction == .tx) (·.completeAs .ok) = some after) :
    ∃ descriptor,
      along .tx before.inFlight = descriptor :: along .tx after.inFlight ∧
      along .rx before.inFlight = along .rx after.inFlight ∧
      after.completed = before.completed ++ [descriptor.completeAs .ok] := by
  obtain ⟨descriptor, asked, progress⟩ := progress_of_finish (asksDirection_beq .tx)
    (fun _ => rfl) (fun _ => Nat.le_refl _) finished
  have sent : descriptor.direction = .tx := beq_iff_eq.1 asked
  have unreceived : descriptor.direction ≠ .rx := by rw [sent]; decide
  have single : Completion.descriptors [descriptor.completeAs .ok] = [descriptor] := rfl
  refine ⟨descriptor, ?_, ?_, progress.completed⟩
  · rw [progress.inFlight, single, along_cons_of_eq sent]
    rfl
  · rw [progress.inFlight, single, along_cons_of_ne unreceived]
    rfl

end Ring

/-! ## All rings -/

namespace Device

variable {device before middle after : Device} {id : QueueId}

/-- Each ring makes progress, and there is as much room as before. -/
structure Progress (before after : Device) : Prop where
  ring : ∀ id, ∃ made, Ring.Progress made (before.ring id) (after.ring id)
  capacity : after.ringCapacity = before.ringCapacity

namespace Progress

theorem of_rings (rings : after.rings = before.rings)
    (capacity : after.ringCapacity = before.ringCapacity) : Progress before after where
  ring := by
    intro id
    have same : after.ring id = before.ring id := by rw [Device.ring, rings, Device.ring]
    rw [same]
    exact ⟨[], .refl _⟩
  capacity := capacity

theorem trans (first : Progress before middle) (second : Progress middle after) :
    Progress before after where
  ring := by
    intro id
    obtain ⟨made, early⟩ := first.ring id
    obtain ⟨more, late⟩ := second.ring id
    exact ⟨made ++ more, early.trans late⟩
  capacity := second.capacity.trans first.capacity

end Progress

/-- Nothing that was asked for is in flight, or a descriptor completes and its vector is raised. -/
theorem finish_cases (device : Device) (id : QueueId) (asked : Descriptor → Bool)
    (complete : Descriptor → Completion) :
    ((device.ring id).finish? asked complete = none ∧
      device.finish id asked complete = (false, device)) ∨
    ∃ ring, (device.ring id).finish? asked complete = some ring ∧
      device.finish id asked complete = (true, (device.putRing id ring).raise id) := by
  unfold finish
  cases (device.ring id).finish? asked complete with
  | none => exact .inl ⟨rfl, rfl⟩
  | some ring => exact .inr ⟨ring, rfl, rfl⟩

theorem ring_raise_putRing (device : Device) (id other : QueueId) (ring : Ring) :
    ((device.putRing id ring).raise id).ring other =
      if other = id then ring else device.ring other :=
  device.ring_putRing id other ring

/-- Completing a descriptor is progress on its ring. -/
theorem progress_finish (device : Device) (id : QueueId) {asked : Descriptor → Bool}
    {complete : Descriptor → Completion} (asks : Ring.AsksDirection asked)
    (same : ∀ descriptor, (complete descriptor).descriptor = descriptor)
    (within : ∀ descriptor, (complete descriptor).len ≤ descriptor.len) :
    Progress device (device.finish id asked complete).2 := by
  rcases device.finish_cases id asked complete with ⟨_, result⟩ | ⟨ring, finished, result⟩
  · rw [result]
    exact .of_rings rfl rfl
  · rw [result]
    refine ⟨fun other => ?_, rfl⟩
    rw [ring_raise_putRing]
    by_cases equal : other = id
    · obtain ⟨descriptor, _, progress⟩ := Ring.progress_of_finish asks same within finished
      rw [if_pos equal, equal]
      exact ⟨[complete descriptor], progress⟩
    · rw [if_neg equal]
      exact ⟨[], .refl _⟩

/-- Completing transmit descriptors is progress on their ring. -/
theorem progress_completeSendsUpTo (id : QueueId) (limit : Nat) (device : Device) :
    Progress device (completeSendsUpTo id limit device).2 := by
  induction limit generalizing device with
  | zero => exact .of_rings rfl rfl
  | succ limit ih =>
      have first : Progress device
          (device.finish id (·.direction == .tx) (·.completeAs .ok)).2 :=
        device.progress_finish id (Ring.asksDirection_beq .tx) (fun _ => rfl) fun _ =>
          Nat.le_refl _
      unfold completeSendsUpTo
      cases result : device.finish id (·.direction == .tx) (·.completeAs .ok) with
      | mk done rest =>
          rw [result] at first
          cases done with
          | false => exact first
          | true => exact first.trans (ih rest)

end Device

/-- All that the device does by itself is progress on its rings. -/
theorem DeviceOp.progress (device : Device) (op : DeviceOp) :
    Device.Progress device (op.apply device) := by
  cases op with
  | complete id status =>
      exact device.progress_finish id (fun _ _ _ => rfl) (fun _ => rfl) fun _ => Nat.le_refl _
  | receive id flow len =>
      exact device.progress_finish id (Ring.asksDirection_beq .rx) (fun _ => rfl)
        fun _ => Nat.min_le_right ..
  | completeSends id => exact Device.progress_completeSendsUpTo id _ device
  | attach id capacity =>
      show Device.Progress device (device.attach id capacity).2
      unfold Device.attach
      split <;> exact .of_rings rfl rfl
  | _ => exact .of_rings rfl rfl

/-! ## All transmit descriptors -/

namespace Device

variable {device : Device} {id : QueueId}

/-- All transmit descriptors of a queue complete as they were submitted, in order, and these are
counted. Receive descriptors stay where they are. -/
structure CompletesSends (id : QueueId) (before : Device) (number : Nat) (after : Device) :
    Prop where
  number : number = (along .tx (before.ring id).inFlight).length
  inFlight : (after.ring id).inFlight = along .rx (before.ring id).inFlight
  completed : (after.ring id).completed =
    (before.ring id).completed ++ (along .tx (before.ring id).inFlight).map (·.completeAs .ok)
  others : ∀ other, other ≠ id → after.ring other = before.ring other

namespace CompletesSends

variable {before middle after : Device} {number : Nat}

theorem none (absent : along .tx (device.ring id).inFlight = []) :
    CompletesSends id device 0 device where
  number := by rw [absent, List.length_nil]
  inFlight := by
    have received : ∀ descriptor ∈ (device.ring id).inFlight, (descriptor.direction == .rx) = true := by
      intro descriptor member
      have unsent := List.filter_eq_nil_iff.1 absent descriptor member
      cases way : descriptor.direction with
      | tx => exact absurd (beq_iff_eq.2 way) unsent
      | rx => rfl
    exact (List.filter_eq_self.2 received).symm
  completed := by rw [absent, List.map_nil, List.append_nil]
  others := fun _ _ => rfl

/-- The oldest transmit descriptor completes before the others do. -/
theorem next {descriptor : Descriptor}
    (oldest : along .tx (before.ring id).inFlight =
      descriptor :: along .tx (middle.ring id).inFlight)
    (stay : along .rx (before.ring id).inFlight = along .rx (middle.ring id).inFlight)
    (completed : (middle.ring id).completed =
      (before.ring id).completed ++ [descriptor.completeAs .ok])
    (others : ∀ other, other ≠ id → middle.ring other = before.ring other)
    (rest : CompletesSends id middle number after) :
    CompletesSends id before (number + 1) after where
  number := by rw [oldest, rest.number, List.length_cons]
  inFlight := by rw [rest.inFlight, stay]
  completed := by rw [rest.completed, completed, oldest, List.map_cons, List.append_assoc]; rfl
  others := fun other different => (rest.others other different).trans (others other different)

end CompletesSends

/-- With a bound that is large enough all transmit descriptors complete. -/
theorem completesSends_upTo {limit : Nat}
    (enough : (along .tx (device.ring id).inFlight).length ≤ limit) :
    CompletesSends id device (completeSendsUpTo id limit device).1
      (completeSendsUpTo id limit device).2 := by
  induction limit generalizing device with
  | zero => exact .none (List.eq_nil_of_length_eq_zero (Nat.le_zero.1 enough))
  | succ limit ih =>
      unfold completeSendsUpTo
      rcases device.finish_cases id (·.direction == .tx) (·.completeAs .ok) with
        ⟨absent, result⟩ | ⟨ring, finished, result⟩
      · rw [result]
        exact .none (Ring.finish?_eq_none_iff.1 absent)
      · obtain ⟨descriptor, oldest, stay, completed⟩ := Ring.send_of_finish finished
        have held : ((device.putRing id ring).raise id).ring id = ring := by
          rw [ring_raise_putRing, if_pos rfl]
        rw [oldest, List.length_cons] at enough
        rw [← held] at oldest stay completed enough
        rw [result]
        refine .next oldest stay completed ?_ (ih (Nat.le_of_succ_le_succ enough))
        intro other different
        rw [ring_raise_putRing, if_neg different]

/-- One more step than there are transmit descriptors finds none. -/
theorem completeSendsUpTo_succ {limit : Nat}
    (enough : (along .tx (device.ring id).inFlight).length ≤ limit) :
    completeSendsUpTo id (limit + 1) device = completeSendsUpTo id limit device := by
  induction limit generalizing device with
  | zero =>
      have absent : (device.ring id).finish? (·.direction == .tx) (·.completeAs .ok) = none :=
        Ring.finish?_eq_none_iff.2 (List.eq_nil_of_length_eq_zero (Nat.le_zero.1 enough))
      unfold completeSendsUpTo finish
      rw [absent]
  | succ limit ih =>
      rw [completeSendsUpTo, completeSendsUpTo]
      rcases device.finish_cases id (·.direction == .tx) (·.completeAs .ok) with
        ⟨_, result⟩ | ⟨ring, finished, result⟩
      · rw [result]
      · obtain ⟨descriptor, oldest, _, _⟩ := Ring.send_of_finish finished
        have held : ((device.putRing id ring).raise id).ring id = ring := by
          rw [ring_raise_putRing, if_pos rfl]
        rw [oldest, List.length_cons] at enough
        rw [← held] at enough
        rw [result]
        simp only [ih (Nat.le_of_succ_le_succ enough)]

/-- The bound on the number of steps does not end the completion of transmit descriptors, so long as
there are no more of them: it ends because none is left. -/
theorem completeSendsUpTo_eq {limit : Nat}
    (enough : (along .tx (device.ring id).inFlight).length ≤ limit) :
    completeSendsUpTo id limit device =
      completeSendsUpTo id (along .tx (device.ring id).inFlight).length device := by
  induction limit, enough using Nat.le_induction with
  | base => rfl
  | succ limit enough ih => rw [completeSendsUpTo_succ enough, ih]

/-- Completing all transmit descriptors of a queue completes exactly these. -/
theorem completesSends (device : Device) (id : QueueId) :
    CompletesSends id device (device.completeSends id).1 (device.completeSends id).2 :=
  completesSends_upTo (List.length_filter_le ..)

/-- Any larger bound gives the same. -/
theorem completeSends_eq_upTo {limit : Nat}
    (enough : (along .tx (device.ring id).inFlight).length ≤ limit) :
    device.completeSends id = completeSendsUpTo id limit device :=
  (completeSendsUpTo_eq (List.length_filter_le ..)).trans (completeSendsUpTo_eq enough).symm

end Device

end FlowSteer
