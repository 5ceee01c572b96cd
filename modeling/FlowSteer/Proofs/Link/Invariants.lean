import FlowSteer.Proofs.Buffers.Supply
import FlowSteer.Proofs.Link.Frames

/-!
# Invariants of the datapath

The packet path changes the datapath by a few kinds of steps: a buffer is taken or given back,
descriptors go to the device or completions come from it, and what channels and counters say
changes. `Datapath.InvariantUnder` asks of a condition that each of these steps keeps it, and that
the device by itself keeps it; descriptors that go to the device may be restricted to some that are
allowed. Then the operations of the packet path keep the condition, whichever of them are refused
and however work is counted, as long as the descriptors that they hand over are allowed
(`LinkOp.Admits`).

Where all descriptors are allowed this is `Datapath.Invariant`, and the condition holds after every
run (`System.invariant_run`). Two conditions are such:

* `Datapath.tidy_invariant`: the pools are in order;
* `Device.bounded_invariant`: no ring has more descriptors in flight than there is room for.
-/

namespace FlowSteer

namespace Datapath

/-- Each step of the packet path and of the device keeps a condition. -/
structure Invariant (holds : Datapath → Prop) : Prop where
  takeBuffer : ∀ {datapath} node direction, holds datapath →
    holds (datapath.takeBuffer node direction).2
  giveBack : ∀ {datapath} mapping, holds datapath → holds (datapath.giveBack mapping)
  submit : ∀ {datapath : Datapath} {id descriptors device},
    datapath.device.submit id descriptors = (.ok (), device) → holds datapath →
    holds { datapath with device }
  poll : ∀ {datapath : Datapath} id budget, holds datapath →
    holds { datapath with device := (datapath.device.poll id budget).2 }
  signals : ∀ {datapath : Datapath} vectors parted stats latency, holds datapath →
    holds { datapath with parted, stats, latency, device := { datapath.device with vectors } }
  device : ∀ {datapath : Datapath} (op : DeviceOp), holds datapath →
    holds { datapath with device := op.apply datapath.device }

/-- Each step keeps a condition that hands over no descriptors but those allowed. -/
structure InvariantUnder (allowed : Descriptor → Prop) (holds : Datapath → Prop) : Prop where
  takeBuffer : ∀ {datapath} node direction, holds datapath →
    holds (datapath.takeBuffer node direction).2
  giveBack : ∀ {datapath} mapping, holds datapath → holds (datapath.giveBack mapping)
  submit : ∀ {datapath : Datapath} {id descriptors device},
    datapath.device.submit id descriptors = (.ok (), device) →
    (∀ descriptor ∈ descriptors, allowed descriptor) → holds datapath →
    holds { datapath with device }
  poll : ∀ {datapath : Datapath} id budget, holds datapath →
    holds { datapath with device := (datapath.device.poll id budget).2 }
  signals : ∀ {datapath : Datapath} vectors parted stats latency, holds datapath →
    holds { datapath with parted, stats, latency, device := { datapath.device with vectors } }
  device : ∀ {datapath : Datapath} (op : DeviceOp), holds datapath →
    holds { datapath with device := op.apply datapath.device }

theorem Invariant.under {holds : Datapath → Prop} (invariant : Invariant holds) :
    InvariantUnder (fun _ => True) holds :=
  { invariant with submit := fun taken _ => invariant.submit taken }

/-! ## Descriptors that are handed over -/

/-- The descriptor of a receive buffer. -/
def receiveDescriptor (datapath : Datapath) (mapping : Mapping) : Descriptor :=
  { mapping, len := datapath.bufferSize, flow := none }

theorem bufferSize_blindToBuffers : BlindToBuffers Datapath.bufferSize :=
  ⟨fun _ _ _ _ _ => rfl⟩

/-- A buffer is mapped in the direction that is asked for. -/
theorem direction_takeBuffer {datapath after : Datapath} {node : NodeId} {direction : Direction}
    {mapping : Mapping}
    (taken : datapath.takeBuffer node direction = (.ok mapping, after)) :
    mapping.direction = direction := by
  unfold takeBuffer at taken
  cases allocated : datapath.pools.alloc node with
  | mk outcome pools =>
      rw [allocated] at taken
      cases outcome with
      | error error => cases congrArg Prod.fst taken
      | ok buffer =>
          unfold Device.mapBuffer at taken
          by_cases faulty : 0 < datapath.device.faults
          · simp only [faulty, if_true] at taken
            cases congrArg Prod.fst taken
          · simp only [faulty, if_false] at taken
            cases taken
            rfl

/-- Receive buffers are described by their mapping alone. -/
theorem mem_takeReceiveBuffers {datapath after : Datapath} {node : NodeId} {number : Nat}
    {descriptors : List Descriptor} {refusal : Option ControlError}
    (taken : takeReceiveBuffers node number datapath = (descriptors, refusal, after)) :
    ∀ descriptor ∈ descriptors, ∃ mapping, mapping.direction = .rx ∧
      descriptor = datapath.receiveDescriptor mapping := by
  have size := bufferSize_blindToBuffers.takeReceiveBuffers node number datapath
  rw [taken] at size
  unfold receiveDescriptor
  rw [← size]
  induction number generalizing datapath descriptors refusal after with
  | zero =>
      cases taken
      nofun
  | succ number ih =>
      have first := bufferSize_blindToBuffers.takeBuffer datapath node .rx
      unfold takeReceiveBuffers at taken
      cases result : datapath.takeBuffer node .rx with
      | mk outcome rest =>
          rw [result] at taken first
          cases outcome with
          | error error =>
              cases taken
              nofun
          | ok mapping =>
              cases later : takeReceiveBuffers node number rest with
              | mk more tail =>
                  simp only [later] at taken
                  cases taken
                  intro descriptor member
                  rcases List.mem_cons.1 member with isFirst | inMore
                  · exact ⟨mapping, direction_takeBuffer result, isFirst⟩
                  · exact ih later (size.trans first.symm) descriptor inMore

end Datapath

/-- Are the descriptors allowed that an operation of the packet path hands over: that of a packet
that is sent, and those of receive buffers. -/
def LinkOp.Admits (allowed : Descriptor → Prop) (now : Nat) (link : Link) : LinkOp → Prop
  | send packet latency => ∀ receipt mapping, (link.send packet latency now).1 = .ok receipt →
      mapping.direction = .tx → allowed (packet.descriptor mapping)
  | postReceive _ _ => ∀ mapping : Mapping, mapping.direction = .rx →
      allowed (link.datapath.receiveDescriptor mapping)
  | _ => True

namespace Datapath.InvariantUnder

variable {allowed : Descriptor → Prop} {holds : Datapath → Prop} {datapath : Datapath}
  {link : Link} {id : QueueId} {now : Nat}

theorem counts (invariant : InvariantUnder allowed holds) (stats : LinkStats)
    (latency : Histogram) (before : holds datapath) : holds { datapath with stats, latency } :=
  invariant.signals datapath.device.vectors datapath.parted stats latency before

theorem giveBackAll (invariant : InvariantUnder allowed holds) (mappings : List Mapping)
    (before : holds datapath) : holds (mappings.foldl Datapath.giveBack datapath) := by
  induction mappings generalizing datapath with
  | nil => exact before
  | cons mapping rest ih => exact ih (invariant.giveBack mapping before)

theorem takeReceiveBuffers (invariant : InvariantUnder allowed holds) (node : NodeId)
    (number : Nat) (before : holds datapath) :
    holds (Datapath.takeReceiveBuffers node number datapath).2.2 := by
  induction number generalizing datapath with
  | zero => exact before
  | succ number ih =>
      have first := invariant.takeBuffer node .rx before
      unfold Datapath.takeReceiveBuffers
      cases taken : datapath.takeBuffer node .rx with
      | mk outcome rest =>
          rw [taken] at first
          cases outcome with
          | error error => exact first
          | ok mapping => exact ih first

/-! ## Sending and receiving -/

/-- Descriptors that the device refuses need not be allowed. -/
theorem handOver (invariant : InvariantUnder allowed holds) {descriptors : List Descriptor}
    (admitted : (link.submit id descriptors).1 = .ok () →
      ∀ descriptor ∈ descriptors, allowed descriptor)
    (before : holds link.datapath) : holds (link.submit id descriptors).2.datapath := by
  rcases link.submit_cases id descriptors with
    ⟨_, _, result⟩ | ⟨_, _, _, result⟩ | ⟨device, taken, result⟩
  · rw [result]
    exact before
  · rw [result]
    exact invariant.giveBackAll _ before
  · rw [result] at admitted ⊢
    exact invariant.submit taken (admitted rfl) before

theorem account (invariant : InvariantUnder allowed holds) (id : QueueId) (flow : FlowId)
    (bytes : Nat) (direction : Direction) (now : Nat) (before : holds link.datapath) :
    holds (link.account id flow bytes direction now).datapath := by
  rcases link.datapath_account id flow bytes direction now with same | same
  · rw [same]
    exact before
  · rw [same]
    exact invariant.counts _ _ before

theorem send (invariant : InvariantUnder allowed holds) {packet : Packet} {latency : Nat}
    (admitted : (LinkOp.send packet latency).Admits allowed now link)
    (before : holds link.datapath) : holds (link.send packet latency now).2.datapath := by
  rcases link.send_cases packet latency now with
    ⟨_, result⟩ | ⟨id, queue, _, _,
      ⟨_, datapath, refused, result⟩ | ⟨mapping, datapath, held, ends⟩⟩
  · rw [result]
    exact before
  · have taken := invariant.takeBuffer queue.node .tx before
    rw [refused] at taken
    rw [result]
    exact invariant.counts _ _ taken
  · have taken := invariant.takeBuffer queue.node .tx before
    rw [held] at taken
    rcases ends with ⟨error, after, refused, result⟩ | ⟨after, handed, result⟩
    · have submitted : holds (({ link with datapath } : Link).submit id
          [packet.descriptor mapping]).2.datapath :=
        invariant.handOver (by rw [refused]; nofun) taken
      rw [refused] at submitted
      rw [result]
      exact invariant.counts _ _ submitted
    · have sent : allowed (packet.descriptor mapping) :=
        admitted _ mapping (congrArg Prod.fst result) (direction_takeBuffer held)
      have submitted : holds (({ link with datapath } : Link).submit id
          [packet.descriptor mapping]).2.datapath :=
        invariant.handOver (fun _ => List.forall_mem_singleton.2 sent) taken
      rw [handed] at submitted
      rw [result]
      have counted : holds (after.count fun stats =>
          { stats with
            txPackets := stats.txPackets + 1
            txBytes := stats.txBytes + packet.len }).datapath := invariant.counts _ _ submitted
      exact invariant.counts _ _ (invariant.account id packet.flow packet.len .tx now counted)

theorem postReceive (invariant : InvariantUnder allowed holds) {number now : Nat}
    (admitted : (LinkOp.postReceive id number).Admits allowed now link)
    (before : holds link.datapath) : holds (link.postReceive id number).2.datapath := by
  rcases link.postReceive_cases id number with
    ⟨_, result⟩ | ⟨queue, descriptors, refusal, datapath, _, taken, ends⟩
  · rw [result]
    exact before
  · have held := invariant.takeReceiveBuffers queue.node number before
    rw [taken] at held
    have waiting : ∀ descriptor ∈ descriptors, allowed descriptor := by
      intro descriptor member
      obtain ⟨mapping, received, rfl⟩ := mem_takeReceiveBuffers taken descriptor member
      exact admitted mapping received
    have submitted : holds (({ link with datapath } : Link).submit id descriptors).2.datapath :=
      invariant.handOver (fun _ => waiting) held
    rcases ends with ⟨_, _, result⟩ | ⟨_, after, refused, result⟩ | ⟨after, handed, result⟩
    · rw [result]
      exact held
    · rw [refused] at submitted
      rw [result]
      exact submitted
    · rw [handed] at submitted
      rw [result]
      exact invariant.counts _ _ submitted

/-! ## Draining -/

/-- Events are taken, completions collected, mappings given back, and the rest is counting. -/
theorem drain (invariant : InvariantUnder allowed holds) (id : QueueId) (budget : Option Nat)
    (now : Nat) (before : holds link.datapath) :
    holds (link.drain id budget now).2.datapath := by
  cases found : link.registry.queues.get? id with
  | none =>
      rw [Link.drain_of_absent found]
      exact before
  | some queue =>
      obtain ⟨report, drained⟩ := Link.drain_eq found budget now
      obtain ⟨_, finished⟩ :=
        Link.datapath_finishAll id now (link.collected id budget) (link.cleared id budget)
      obtain ⟨_, heard⟩ := link.datapath.takeEvents_snd id
      have listened : holds (link.datapath.takeEvents id).2 := by
        rw [heard]
        exact invariant.signals _ _ _ _ before
      have polled := invariant.poll id (budget.getD (link.datapath.device.ring id).completed.length)
        listened
      have returned := invariant.giveBackAll ((link.collected id budget).map Completion.mapping)
        polled
      have cleared : holds (link.cleared id budget).datapath := by
        unfold Link.cleared
        obtain ⟨_, settled⟩ := Link.datapath_settle _ id (link.collected id budget).length
        rw [settled]
        exact invariant.counts _ _ returned
      rw [drained]
      show holds ((link.collected id budget).foldl (Link.finish id now)
        (link.cleared id budget)).datapath
      rw [finished]
      exact invariant.counts _ _ cleared

theorem takeEvent (invariant : InvariantUnder allowed holds) (id : QueueId)
    (before : holds datapath) : holds (datapath.takeEvent id).2 := by
  rcases datapath.takeEvent_cases id with result | ⟨channel, rest, _, _, result⟩
  · rw [result]
    exact before
  · have received : holds (datapath.putChannel id rest) := invariant.signals _ _ _ _ before
    rw [result]
    exact invariant.counts _ _ received

theorem work (invariant : InvariantUnder allowed holds) (id : QueueId) (budget now : Nat)
    (before : holds link.datapath) : holds (link.work id budget now).datapath := by
  rcases link.work_cases id budget now with result | ⟨datapath, limit, woken, result⟩
  · rw [result]
    exact invariant.drain id none now before
  · have taken := invariant.takeEvent id before
    rw [woken] at taken
    have batches : holds (Link.drainBatches id budget now limit { link with datapath }).datapath :=
      Link.drainBatches_induct (motive := fun link => holds link.datapath)
        (fun _ reached => invariant.drain id (some budget) now reached) limit taken
    rw [result]
    exact invariant.drain id none now batches

theorem deviceOp (invariant : InvariantUnder allowed holds) (op : DeviceOp)
    (before : holds datapath) : holds { datapath with
      device := op.apply datapath.device
      parted := op.parted datapath } :=
  invariant.signals (op.apply datapath.device).vectors (op.parted datapath) datapath.stats
    datapath.latency (invariant.device op before)

theorem linkOp (invariant : InvariantUnder allowed holds) {op : LinkOp}
    (admitted : op.Admits allowed now link) (before : holds link.datapath) :
    holds (op.apply now link).datapath := by
  cases op with
  | send packet latency => exact invariant.send admitted before
  | postReceive id number => exact invariant.postReceive admitted before
  | drain id budget => exact invariant.drain id budget now before
  | takeEvent id => exact invariant.takeEvent id before
  | work id budget => exact invariant.work id budget now before

end Datapath.InvariantUnder

/-- Nothing is refused where all descriptors are allowed. -/
theorem LinkOp.admits_all (now : Nat) (link : Link) (op : LinkOp) :
    op.Admits (fun _ => True) now link := by
  cases op with
  | send packet latency => exact fun _ _ _ _ => trivial
  | postReceive id number => exact fun _ _ => trivial
  | _ => trivial

namespace System

variable {holds : Datapath → Prop}

theorem invariant_step (invariant : Datapath.Invariant holds) (system : System)
    (operation : Operation) (before : holds system.datapath) :
    holds (system.step operation).datapath := by
  cases operation with
  | link op => exact invariant.under.linkOp (op.admits_all system.clock.now system.link) before
  | device op => exact invariant.under.deviceOp op before
  | _ => exact before

/-- What each step keeps holds after every run. -/
theorem invariant_run (invariant : Datapath.Invariant holds) {system : System}
    (start : holds system.datapath) (operations : List Operation) :
    holds (system.run operations).datapath := by
  induction operations generalizing system with
  | nil => exact start
  | cons operation rest ih => exact ih (invariant_step invariant system operation start)

end System

/-! ## Pools in order -/

theorem Datapath.tidy_invariant : Invariant fun datapath => datapath.pools.Tidy where
  takeBuffer := by
    intro datapath node direction tidy
    have taken := tidy.alloc node
    unfold takeBuffer
    cases result : datapath.pools.alloc node with
    | mk outcome pools =>
        rw [result] at taken
        cases outcome with
        | error error => exact tidy
        | ok buffer =>
            simp only []
            cases datapath.device.mapBuffer buffer direction with
            | mk outcome device =>
                cases outcome with
                | error error => exact taken.release buffer
                | ok mapping => exact taken
  giveBack := fun mapping tidy => tidy.release mapping.buffer
  submit := fun _ tidy => tidy
  poll := fun _ _ tidy => tidy
  signals := fun _ _ _ _ tidy => tidy
  device := fun _ tidy => tidy

/-- The pools are in order after every run. -/
theorem System.tidy_run (blueprint : Blueprint) (operations : List Operation) :
    ((fresh blueprint).run operations).datapath.pools.Tidy :=
  invariant_run Datapath.tidy_invariant (.full _ _ _) operations

/-! ## Rings within bounds -/

namespace Device

/-- No ring has more descriptors in flight than there is room for. -/
def Bounded (device : Device) : Prop := ∀ id, device.inFlight id ≤ device.ringCapacity

namespace Bounded

variable {device after : Device} {id : QueueId}

theorem of_rings (bounded : device.Bounded) (rings : after.rings = device.rings)
    (capacity : after.ringCapacity = device.ringCapacity) : after.Bounded := by
  intro id
  unfold inFlight ring
  rw [rings, capacity]
  exact bounded id

theorem putRing (bounded : device.Bounded) {ring : Ring}
    (fits : ring.inFlight.length ≤ device.ringCapacity) : (device.putRing id ring).Bounded := by
  intro other
  unfold inFlight
  rw [ring_putRing]
  split
  · exact fits
  · exact bounded other

/-- The device takes descriptors only while there is room. -/
theorem submit {descriptors : List Descriptor} (bounded : device.Bounded)
    (taken : device.submit id descriptors = (.ok (), after)) : after.Bounded := by
  have handed := eq_of_submit taken
  unfold Device.submit at taken
  split at taken
  · cases congrArg Prod.fst taken
  · rename_i fits
    rw [handed]
    apply bounded.putRing
    show ((device.ring id).inFlight ++ descriptors).length ≤ device.ringCapacity
    rw [List.length_append]
    exact Nat.not_lt.1 fits

theorem poll (bounded : device.Bounded) (id : QueueId) (budget : Nat) :
    (device.poll id budget).2.Bounded := by
  unfold Device.poll
  cases found : device.rings.get? id with
  | none => exact bounded
  | some ring =>
      have held : device.ring id = ring := by
        unfold Device.ring
        rw [found]
        rfl
      have before := bounded id
      unfold inFlight at before
      rw [held] at before
      exact bounded.putRing before

/-- Completing a descriptor takes it out of flight. -/
theorem finish (bounded : device.Bounded) (id : QueueId) (asked : Descriptor → Bool)
    (complete : Descriptor → Completion) : (device.finish id asked complete).2.Bounded := by
  unfold Device.finish
  cases finished : (device.ring id).finish? asked complete with
  | none => exact bounded
  | some ring =>
      obtain ⟨_, _, rfl⟩ := Option.map_eq_some_iff.1 finished
      have fewer : ((device.ring id).inFlight.eraseP asked).length ≤ device.ringCapacity :=
        (List.length_eraseP_le ..).trans (bounded id)
      exact (bounded.putRing fewer).of_rings rfl rfl

theorem completeSendsUpTo (id : QueueId) (limit : Nat) (bounded : device.Bounded) :
    (Device.completeSendsUpTo id limit device).2.Bounded := by
  induction limit generalizing device with
  | zero => exact bounded
  | succ limit ih =>
      have finished := bounded.finish id (·.direction == .tx) (·.completeAs .ok)
      unfold Device.completeSendsUpTo
      cases result : device.finish id (·.direction == .tx) (·.completeAs .ok) with
      | mk done rest =>
          rw [result] at finished
          cases done with
          | false => exact finished
          | true => exact ih finished

theorem deviceOp (bounded : device.Bounded) (op : DeviceOp) : (op.apply device).Bounded := by
  cases op with
  | complete id status => exact bounded.finish id _ _
  | receive id flow len => exact bounded.finish id _ _
  | completeSends id => exact bounded.completeSendsUpTo id _
  | attach id capacity =>
      show (device.attach id capacity).2.Bounded
      unfold Device.attach
      split
      · exact bounded
      · exact bounded.of_rings rfl rfl
  | _ => exact bounded.of_rings rfl rfl

end Bounded

theorem bounded_invariant : Datapath.Invariant fun datapath => datapath.device.Bounded where
  takeBuffer := by
    intro datapath node direction bounded
    unfold Datapath.takeBuffer
    cases datapath.pools.alloc node with
    | mk outcome pools =>
        cases outcome with
        | error error => exact bounded
        | ok buffer =>
            unfold mapBuffer
            by_cases faulty : 0 < datapath.device.faults
            · simp only [faulty, if_true]
              exact bounded.of_rings rfl rfl
            · simp only [faulty, if_false]
              exact bounded.of_rings rfl rfl
  giveBack := fun _ bounded => bounded.of_rings rfl rfl
  submit := fun taken bounded => bounded.submit taken
  poll := fun id budget bounded => bounded.poll id budget
  signals := fun _ _ _ _ bounded => bounded.of_rings rfl rfl
  device := fun op bounded => bounded.deviceOp op

end Device

/-- No ring is overfull after any run. -/
theorem System.bounded_run (blueprint : Blueprint) (operations : List Operation) :
    ((fresh blueprint).run operations).datapath.device.Bounded :=
  invariant_run Device.bounded_invariant (fun _ => Nat.zero_le _) operations

end FlowSteer
