import FlowSteer.Proofs.Link.Emptying
import FlowSteer.Proofs.Link.Frames

/-!
# Signals

What tells a completion worker about its queue are the completions in the ring and the events in
the channel of the vector (`Signals`). Events come in as long as the channel has its vector. Three
things happen to the signals of a queue whose vector is not detached, and nothing else does:

* `Datapath.signals_finish`: the device completes a descriptor and raises the vector;
* `Link.signals_drain`: a drain takes all events, and then completions within its budget;
* `Datapath.signals_attach`: a vector is attached where there was none.

`Datapath.signals_blindToTransfers` covers sending and receiving. A drain, an event that is taken
and a vector that is detached leave the signals of other queues alone (`Link.signals_drain_of_ne`
and the like). The channel of a queue outlives its vector (`Datapath.channel?_detach`).
-/

namespace FlowSteer

/-- What there is to see of a queue: the completions in its ring, and the channel of its vector when
the datapath listens to it. -/
structure Signals where
  completed : List Completion
  channel : Option Channel
  /-- Has the channel lost its vector, so that no further event gets into it. -/
  parted : Bool

namespace Signals

/-- The signals after a descriptor completes. -/
def complete (signals : Signals) (completion : Completion) : Signals where
  completed := signals.completed ++ [completion]
  channel := if signals.parted then signals.channel
    else signals.channel.map fun channel => channel.notify.2
  parted := signals.parted

theorem channel_complete {signals : Signals} (joined : signals.parted = false)
    (completion : Completion) : (signals.complete completion).channel =
      signals.channel.map fun channel => channel.notify.2 := by
  unfold complete
  rw [joined]
  rfl

/-- The signals after a drain. -/
def drain (signals : Signals) (size : Nat) : Signals where
  completed := signals.completed.drop size
  channel := signals.channel.map fun channel => channel.receiveAll.2
  parted := signals.parted

end Signals

namespace Datapath

variable {datapath : Datapath} {id other : QueueId}

/-- The signals of a queue. -/
def signals (datapath : Datapath) (id : QueueId) : Signals where
  completed := (datapath.device.ring id).completed
  channel := datapath.channel? id
  parted := datapath.parted.contains id

/-- The datapath with another state of its device. -/
def withDevice (datapath : Datapath) (device : Device) : Datapath := { datapath with device }

/-- Handing descriptors over leaves the completions of all rings. -/
theorem completed_submit (device : Device) (id other : QueueId) (descriptors : List Descriptor) :
    ((device.putRing id ((device.ring id).submit descriptors)).ring other).completed =
      (device.ring other).completed := by
  rw [Device.ring_putRing]
  split
  · rename_i same
    rw [same]
    rfl
  · rfl

/-- Sending and receiving leave the signals of every queue. -/
theorem signals_blindToTransfers (id : QueueId) : BlindToTransfers (signals · id) where
  buffers := fun _ _ _ _ _ => rfl
  inFlight := by
    intro datapath other descriptors
    exact congrArg (fun completed => { datapath.signals id with completed })
      (completed_submit datapath.device other id descriptors)
  counts := fun _ _ _ => rfl

/-! ## The device -/

/-- The channel of a queue when one vector is changed. -/
theorem channel?_modify (datapath : Datapath) (id other : QueueId) (change : Channel → Channel) :
    (datapath.withDevice { datapath.device with
        vectors := datapath.device.vectors.modify id change }).channel? other =
      if other = id ∧ datapath.parted.contains id = false then
        (datapath.channel? other).map change
      else datapath.channel? other := by
  unfold channel? withDevice IdMap.contains
  by_cases same : other = id
  · subst same
    cases datapath.listening.contains other <;> cases left : datapath.parted.get? other <;>
      simp [IdMap.get?_modify]
  · simp [IdMap.get?_modify, same]

/-- The signals when the ring of a queue is put in place and its vector raised. -/
theorem signals_raise (datapath : Datapath) (id other : QueueId) (ring : Ring) :
    (datapath.withDevice ((datapath.device.putRing id ring).raise id)).signals other =
      if other = id then
        { datapath.signals id with
          completed := ring.completed
          channel := if datapath.parted.contains id then datapath.channel? id
            else (datapath.channel? id).map fun channel => channel.notify.2 }
      else datapath.signals other := by
  have channel : (datapath.withDevice ((datapath.device.putRing id ring).raise id)).channel? other =
      _ := (datapath.withDevice (datapath.device.putRing id ring)).channel?_modify id other
    fun channel => channel.notify.2
  have held : ((datapath.device.putRing id ring).raise id).ring other = _ :=
    datapath.device.ring_putRing id other ring
  unfold signals
  show Signals.mk (((datapath.device.putRing id ring).raise id).ring other).completed _ _ = _
  rw [channel, held]
  by_cases same : other = id
  · subst same
    cases left : datapath.parted.contains other <;>
      simp [left, withDevice, channel?, Device.putRing]
  · simp [same, withDevice, channel?, Device.putRing]

/-- A queue for which the device completes a descriptor gets the completion and an event. -/
theorem signals_finish (datapath : Datapath) (id : QueueId) (asked : Descriptor → Bool)
    (complete : Descriptor → Completion) :
    let after := datapath.withDevice (datapath.device.finish id asked complete).2
    after.signals id = datapath.signals id ∨
      ∃ completion, after.signals id = (datapath.signals id).complete completion := by
  unfold Device.finish Ring.finish?
  cases (datapath.device.ring id).inFlight.find? asked with
  | none => exact .inl rfl
  | some descriptor =>
      exact .inr ⟨complete descriptor, (datapath.signals_raise id id _).trans (if_pos rfl)⟩

theorem signals_finish_of_ne (different : other ≠ id) (datapath : Datapath)
    (asked : Descriptor → Bool) (complete : Descriptor → Completion) :
    (datapath.withDevice (datapath.device.finish id asked complete).2).signals other =
      datapath.signals other := by
  unfold Device.finish
  cases (datapath.device.ring id).finish? asked complete with
  | none => rfl
  | some ring => exact (datapath.signals_raise id other ring).trans (if_neg different)

/-- A vector is attached where there was none. -/
theorem signals_attach (datapath : Datapath) (id other : QueueId) (capacity : Nat) :
    let after := datapath.withDevice (datapath.device.attach id capacity).2
    after.signals other = datapath.signals other ∨
      (datapath.signals other).channel = none ∧
        after.signals other = { datapath.signals other with channel := some { capacity } } := by
  intro after
  cases attached : datapath.device.vectors.contains id with
  | true =>
      -- A queue has one vector, and a second one is refused.
      have refused : after = datapath := by
        unfold after Device.attach
        rw [if_pos attached]
        rfl
      exact .inl (congrArg (signals · other) refused)
  | false =>
      have absent : datapath.device.vectors.get? id = none :=
        Option.not_isSome_iff_eq_none.1 (Bool.eq_false_iff.1 attached)
      unfold after Device.attach
      rw [attached]
      unfold signals channel? withDevice
      simp only [Bool.false_eq_true, if_false, IdMap.get?_insert]
      cases datapath.listening.contains other with
      | false => exact .inl rfl
      | true =>
          by_cases same : other = id
          · rw [if_pos same, same, absent]
            unfold IdMap.contains
            cases datapath.parted.get? id with
            | none => exact .inr ⟨rfl, rfl⟩
            | some channel => exact .inl rfl
          · rw [if_neg same]
            exact .inl rfl

theorem get?_partedFrom_of_ne (different : other ≠ id) (datapath : Datapath) :
    (datapath.partedFrom id).get? other = datapath.parted.get? other := by
  unfold partedFrom
  split
  · exact IdMap.get?_insert_of_ne different _ _
  · rfl

/-- The channel of a queue outlives its vector. -/
theorem channel?_detach (datapath : Datapath) (id other : QueueId) :
    (datapath.detach id).channel? other = datapath.channel? other := by
  have detached : (datapath.detach id).channel? other =
      if datapath.listening.contains other then
        ((datapath.partedFrom id).get? other).or ((datapath.device.vectors.erase id).get? other)
      else none := rfl
  rw [detached, IdMap.get?_erase]
  by_cases same : other = id
  · subst same
    unfold partedFrom
    rw [if_pos rfl, Option.or_none]
    cases heard : datapath.channel? other with
    | some channel =>
        rw [if_pos (channel?_eq_some_iff.1 heard).1]
        exact IdMap.get?_insert_self _ _ _
    | none =>
        unfold channel? at heard
        split at heard
        · exact (if_pos ‹_›).trans (Option.or_eq_none_iff.1 heard).1
        · exact if_neg ‹_›
  · rw [if_neg same, get?_partedFrom_of_ne same]
    rfl

/-- Detaching a vector leaves the signals of other queues. -/
theorem signals_detach_of_ne (different : other ≠ id) (datapath : Datapath) :
    (datapath.detach id).signals other = datapath.signals other := by
  have parted : (datapath.partedFrom id).contains other = datapath.parted.contains other := by
    unfold IdMap.contains
    rw [get?_partedFrom_of_ne different]
  unfold signals
  rw [channel?_detach]
  show Signals.mk _ _ ((datapath.partedFrom id).contains other) = _
  rw [parted]
  rfl

/-! ## Taking events -/

/-- The datapath after the events of a queue are taken, but for its statistics. -/
def hushed (datapath : Datapath) (id : QueueId) : Datapath :=
  { datapath with
    parted := datapath.partedHeard id
    device := { datapath.device with vectors := datapath.heard id } }

theorem signals_hushed (datapath : Datapath) (id other : QueueId) :
    (datapath.hushed id).signals other =
      if other = id then (datapath.signals id).drain 0 else datapath.signals other := by
  unfold signals Signals.drain channel? hushed heard partedHeard Device.ring IdMap.contains
  by_cases same : other = id
  · subst same
    cases datapath.listening.contains other <;> cases left : datapath.parted.get? other <;>
      simp [IdMap.get?_modify, left]
  · cases datapath.listening.contains id <;> cases datapath.parted.get? id <;>
      simp [IdMap.get?_modify, same]

theorem signals_putChannel_of_ne (different : other ≠ id) (datapath : Datapath)
    (channel : Channel) : (datapath.putChannel id channel).signals other =
      datapath.signals other := by
  unfold putChannel signals channel? Device.ring
  split <;>
    simp [IdMap.contains, IdMap.get?_insert_of_ne different, IdMap.get?_modify, different]

theorem signals_takeEvent_of_ne (different : other ≠ id) (datapath : Datapath) :
    (datapath.takeEvent id).2.signals other = datapath.signals other := by
  rcases datapath.takeEvent_cases id with result | ⟨_, rest, _, _, result⟩
  · rw [result]
  · rw [result]
    exact signals_putChannel_of_ne different datapath rest

end Datapath

namespace Link

variable {link : Link} {id other : QueueId} {queue : Queue} {now : Nat}

/-- A drain takes the events of its queue, and then completions within its budget. -/
theorem signals_drain (found : link.registry.queues.get? id = some queue) (budget : Option Nat)
    (other : QueueId) :
    (link.drain id budget now).2.datapath.signals other =
      if other = id then (link.datapath.signals id).drain
        (budget.getD (link.datapath.device.ring id).completed.length)
      else link.datapath.signals other := by
  have ring : (link.drain id budget now).2.datapath.device.ring other = _ :=
    ring_drain_eq found budget other
  have hushed := link.datapath.signals_hushed id other
  obtain ⟨pools, stats, drained⟩ := datapath_drain found budget now
  -- Drained and hushed datapaths differ in the ring, and in nothing else that signals show.
  have apart : (link.drain id budget now).2.datapath.signals other =
      { (link.datapath.hushed id).signals other with
        completed := ((link.drain id budget now).2.datapath.device.ring other).completed } := by
    rw [drained]
    rfl
  rw [apart, ring, hushed]
  by_cases same : other = id
  · rw [if_pos same, if_pos same, if_pos same]
    rfl
  · rw [if_neg same, if_neg same, if_neg same]
    rfl

theorem signals_drain_of_ne (different : other ≠ id) (link : Link) (budget : Option Nat)
    (now : Nat) :
    (link.drain id budget now).2.datapath.signals other = link.datapath.signals other := by
  cases found : link.registry.queues.get? id with
  | none => rw [drain_of_absent found]
  | some queue => rw [signals_drain found, if_neg different]

/-- The worker of one queue leaves the signals of other queues. -/
theorem signals_work_of_ne (different : other ≠ id) (link : Link) (budget now : Nat) :
    (link.work id budget now).datapath.signals other = link.datapath.signals other := by
  rcases link.work_cases id budget now with result | ⟨datapath, limit, woken, result⟩
  · rw [result, signals_drain_of_ne different]
  · have heard := link.datapath.signals_takeEvent_of_ne different
    rw [woken] at heard
    have batches : (drainBatches id budget now limit { link with datapath }).datapath.signals
        other = link.datapath.signals other := by
      apply drainBatches_induct (motive := fun later =>
        later.datapath.signals other = link.datapath.signals other)
      · intro later same
        rw [signals_drain_of_ne different, same]
      · exact heard
    rw [result, signals_drain_of_ne different, batches]

end Link

end FlowSteer
