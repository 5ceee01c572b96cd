import FlowSteer.Proofs.Device.Progress
import FlowSteer.Proofs.Plane.Datapaths
import FlowSteer.Proofs.Plane.Ledger

/-!
# Lengths of descriptors

The device reads and writes memory as far as its descriptors say. A receive descriptor has the
length of the buffers. A descriptor to send has the length of its packet, and no one compares that
with the buffer.

1. `Ring.Sound`: what is known of the descriptors of a ring, through all that the device does.
2. `Datapath.Sized`: what each operation keeps, for the packets that the device took up to then
   (`Plane.accepted`).
3. `Plane.measured_run_iff`: in every plane that is reached receive descriptors and what they
   account for stay within the buffers, and all descriptors do if and only if the packets do.
4. `Plane.overlong_packet`: a packet that does not.
-/

namespace FlowSteer

/-! ## One ring -/

namespace Ring

/-- Each descriptor of a ring is one of those given to the device, and none was filled beyond its
length. -/
structure Sound (given : Descriptor → Prop) (ring : Ring) : Prop where
  descriptors : ∀ descriptor ∈ ring.descriptors, given descriptor
  completions : ∀ completion ∈ ring.completed, completion.len ≤ completion.descriptor.len

namespace Sound

variable {given wider : Descriptor → Prop} {ring after : Ring}

theorem empty (given : Descriptor → Prop) : ({} : Ring).Sound given where
  descriptors := nofun
  completions := nofun

theorem mono (sound : ring.Sound given) (weaker : ∀ descriptor, given descriptor → wider descriptor) :
    ring.Sound wider where
  descriptors := fun descriptor member => weaker descriptor (sound.descriptors descriptor member)
  completions := sound.completions

theorem submit (sound : ring.Sound given) {submitted : List Descriptor}
    (all : ∀ descriptor ∈ submitted, given descriptor) : (ring.submit submitted).Sound given where
  descriptors := by
    intro descriptor member
    have split : descriptor ∈ (ring.inFlight ++ submitted) ++ Completion.descriptors ring.completed :=
      member
    rw [List.append_assoc, List.mem_append, List.mem_append] at split
    rcases split with flying | new | completed
    · exact sound.descriptors descriptor (List.mem_append_left _ flying)
    · exact all descriptor new
    · exact sound.descriptors descriptor (List.mem_append_right _ completed)
  completions := sound.completions

theorem poll (sound : ring.Sound given) (budget : Nat) : (ring.poll budget).2.Sound given where
  descriptors := by
    intro descriptor member
    apply sound.descriptors descriptor
    rcases List.mem_append.1 member with flying | completed
    · exact List.mem_append_left _ flying
    · exact List.mem_append_right _ (((List.drop_sublist ..).map _).subset completed)
  completions := fun completion member => sound.completions completion (List.mem_of_mem_drop member)

theorem progress (sound : ring.Sound given) {made : List Completion}
    (progress : Progress made ring after) : after.Sound given where
  descriptors := fun descriptor member =>
    sound.descriptors descriptor (progress.perm.mem_iff.1 member)
  completions := by
    intro completion member
    rw [progress.completed, List.mem_append] at member
    rcases member with early | late
    · exact sound.completions completion early
    · exact progress.lengths completion late

end Sound

end Ring

/-! ## The datapath -/

/-- The descriptor is that of a receive buffer of some size, or of one of some packets. -/
def Descriptor.Given (size : Nat) (packets : List Packet) (descriptor : Descriptor) : Prop :=
  match descriptor.direction with
  | .rx => descriptor.len = size
  | .tx => ∃ packet ∈ packets, descriptor = packet.descriptor descriptor.mapping

theorem Descriptor.given_of_sent {size : Nat} {packets : List Packet} {packet : Packet}
    {mapping : Mapping} (sent : mapping.direction = .tx) (member : packet ∈ packets) :
    (packet.descriptor mapping).Given size packets := by
  have direction : (packet.descriptor mapping).direction = .tx := sent
  unfold Given
  rw [direction]
  exact ⟨packet, member, rfl⟩

theorem Descriptor.given_of_received {size : Nat} {packets : List Packet} {mapping : Mapping}
    {datapath : Datapath} (received : mapping.direction = .rx) (room : datapath.bufferSize = size) :
    (datapath.receiveDescriptor mapping).Given size packets := by
  have direction : (datapath.receiveDescriptor mapping).direction = .rx := received
  unfold Given
  rw [direction]
  exact room

theorem Descriptor.Given.mono {size : Nat} {packets more : List Packet}
    (fewer : ∀ packet ∈ packets, packet ∈ more) {descriptor : Descriptor}
    (given : descriptor.Given size packets) : descriptor.Given size more := by
  unfold Given at given ⊢
  split at given
  · exact given
  · obtain ⟨packet, member, same⟩ := given
    exact ⟨packet, fewer packet member, same⟩

theorem Pool.bufferSize_release (pool : Pool) (buffer : Buffer) :
    (pool.release buffer).bufferSize = pool.bufferSize := by
  unfold release
  split
  · rfl
  · simp only []
    split <;> rfl

namespace Pools

/-- All pooled buffers have one size. -/
def Sized (size : Nat) (pools : Pools) : Prop :=
  ∀ node pool, pools.pool? node = some pool → pool.bufferSize = size

variable {size : Nat} {pools : Pools}

theorem Sized.full (nodes perNode size : Nat) : (full nodes perNode size).Sized size := by
  intro node pool found
  obtain ⟨_, _, rfl⟩ := Option.map_eq_some_iff.1 ((List.getElem?_map ..).symm.trans found)
  rfl

theorem Sized.alloc (sized : pools.Sized size) (node : NodeId) : (pools.alloc node).2.Sized size := by
  cases found : pools.pool? node with
  | none =>
      rw [alloc_of_absent found]
      exact sized
  | some pool =>
      cases next : pool.free with
      | nil =>
          rw [alloc_of_exhausted found next]
          exact sized
      | cons index rest =>
          have present : node < pools.pools.length := (List.getElem?_eq_some_iff.1 found).1
          rw [alloc_of_free found next]
          intro other changed shown
          rw [pool?_set pools node other _ present] at shown
          split at shown
          · cases shown
            exact sized node pool found
          · exact sized other changed shown

theorem Sized.release (sized : pools.Sized size) (buffer : Buffer) :
    (pools.release buffer).Sized size := by
  intro node pool found
  rw [pool?_release] at found
  split at found
  · obtain ⟨old, present, rfl⟩ := Option.map_eq_some_iff.1 found
    rw [Pool.bufferSize_release, sized node old present]
  · exact sized node pool found

end Pools

namespace Datapath

/-- All buffers have one size, and the rings hold such receive buffers and some packets. -/
structure Sized (size : Nat) (packets : List Packet) (datapath : Datapath) : Prop where
  bufferSize : datapath.bufferSize = size
  pools : datapath.pools.Sized size
  rings : ∀ id, (datapath.device.ring id).Sound (Descriptor.Given size packets)

namespace Sized

variable {size : Nat} {packets more : List Packet} {datapath before after : Datapath}

theorem mono (sized : datapath.Sized size packets) (fewer : ∀ packet ∈ packets, packet ∈ more) :
    datapath.Sized size more where
  bufferSize := sized.bufferSize
  pools := sized.pools
  rings := fun id => (sized.rings id).mono fun _ given => given.mono fewer

theorem of_rings (sized : before.Sized size packets) (room : after.bufferSize = before.bufferSize)
    (pools : after.pools.Sized size) (rings : after.device.rings = before.device.rings) :
    after.Sized size packets where
  bufferSize := room.trans sized.bufferSize
  pools := pools
  rings := by
    intro id
    rw [Device.ring, rings]
    exact sized.rings id

theorem takeBuffer (sized : datapath.Sized size packets) (node : NodeId) (direction : Direction) :
    (datapath.takeBuffer node direction).2.Sized size packets := by
  have rings : BlindToBuffers fun datapath : Datapath => datapath.device.rings :=
    ⟨fun _ _ _ _ _ => rfl⟩
  apply sized.of_rings (bufferSize_blindToBuffers.takeBuffer ..) _ (rings.takeBuffer ..)
  have allocated := sized.pools.alloc node
  unfold Datapath.takeBuffer
  cases result : datapath.pools.alloc node with
  | mk outcome pools =>
      rw [result] at allocated
      cases outcome with
      | error error => exact sized.pools
      | ok buffer =>
          simp only []
          cases datapath.device.mapBuffer buffer direction with
          | mk outcome device =>
              cases outcome with
              | error error => exact allocated.release buffer
              | ok mapping => exact allocated

theorem submit (sized : datapath.Sized size packets) {id : QueueId} {device : Device}
    {descriptors : List Descriptor}
    (taken : datapath.device.submit id descriptors = (.ok (), device))
    (given : ∀ descriptor ∈ descriptors, descriptor.Given size packets) :
    ({ datapath with device } : Datapath).Sized size packets where
  bufferSize := sized.bufferSize
  pools := sized.pools
  rings := by
    intro other
    rw [Device.eq_of_submit taken, Device.ring_putRing]
    split
    · exact (sized.rings id).submit given
    · exact sized.rings other

theorem poll (sized : datapath.Sized size packets) (id : QueueId) (budget : Nat) :
    ({ datapath with device := (datapath.device.poll id budget).2 } : Datapath).Sized size packets where
  bufferSize := sized.bufferSize
  pools := sized.pools
  rings := by
    intro other
    rw [(datapath.device.poll_eq id budget).2.1]
    split
    · exact (sized.rings id).poll budget
    · exact sized.rings other

theorem deviceOp (sized : datapath.Sized size packets) (op : DeviceOp) :
    ({ datapath with device := op.apply datapath.device } : Datapath).Sized size packets where
  bufferSize := sized.bufferSize
  pools := sized.pools
  rings := by
    intro id
    obtain ⟨made, progress⟩ := (DeviceOp.progress datapath.device op).ring id
    exact (sized.rings id).progress progress

end Sized

theorem sized_invariant (size : Nat) (packets : List Packet) :
    InvariantUnder (Descriptor.Given size packets) (Sized size packets) where
  takeBuffer := fun node direction sized => sized.takeBuffer node direction
  giveBack := fun mapping sized => sized.of_rings rfl (sized.pools.release mapping.buffer) rfl
  submit := fun taken given sized => sized.submit taken given
  poll := fun id budget sized => sized.poll id budget
  signals := fun _ _ _ _ sized => sized.of_rings rfl sized.pools rfl
  device := fun op sized => sized.deviceOp op

theorem sized_poolInvariant (size : Nat) (packets : List Packet) :
    PoolInvariant (Sized size packets) where
  alloc := fun node sized => sized.of_rings rfl (sized.pools.alloc node) rfl
  release := fun buffer sized => sized.of_rings rfl (sized.pools.release buffer) rfl

end Datapath

/-! ## Packets that the device takes -/

theorem Link.device_account (link : Link) (id : QueueId) (flow : FlowId) (bytes : Nat)
    (direction : Direction) (now : Nat) :
    (link.account id flow bytes direction now).datapath.device = link.datapath.device := by
  rcases link.datapath_account id flow bytes direction now with same | same
  · rw [same]
  · rw [same]
    rfl

/-- Counting a packet that was sent leaves the device alone. -/
theorem Link.device_sent (link : Link) (id : QueueId) (packet : Packet) (latency now : Nat) :
    (link.sent id packet latency now).datapath.device = link.datapath.device :=
  device_account (link.count _) id packet.flow packet.len .tx now

/-- A packet that the device takes is in flight. -/
theorem Link.inFlight_of_sent {link after : Link} {packet : Packet} {latency now : Nat}
    {receipt : Receipt} (sent : link.send packet latency now = (.ok receipt, after)) :
    ∃ mapping, packet.descriptor mapping ∈ (after.datapath.device.ring receipt.queue).inFlight := by
  rcases link.send_cases packet latency now with
    ⟨_, result⟩ | ⟨id, queue, _, _, ⟨_, _, _, result⟩ | ⟨mapping, datapath, _, ends⟩⟩
  · cases sent.symm.trans result
  · cases sent.symm.trans result
  · rcases ends with ⟨_, _, _, result⟩ | ⟨handed, submitted, result⟩
    · cases sent.symm.trans result
    · cases sent.symm.trans result
      refine ⟨mapping, ?_⟩
      rw [device_sent]
      rcases ({ link with datapath } : Link).submit_cases id [packet.descriptor mapping] with
        ⟨_, _, refused⟩ | ⟨_, _, _, refused⟩ | ⟨device, taken, handedOver⟩
      · cases submitted.symm.trans refused
      · cases submitted.symm.trans refused
      · cases submitted.symm.trans handedOver
        have flying : device.ring id =
            (datapath.device.ring id).submit [packet.descriptor mapping] := by
          rw [Device.eq_of_submit taken, Device.ring_putRing, if_pos rfl]
        show _ ∈ (device.ring id).inFlight
        rw [flying]
        exact List.mem_append_right _ (List.mem_singleton_self _)

namespace Plane

/-- The packets that the device takes in an operation. -/
def accepts (plane : Plane) : PlaneOp → List Packet
  | .part (.link (.send packet latency)) =>
      match (plane.link.send packet latency plane.clock.now).1 with
      | .ok _ => [packet]
      | .error _ => []
  | _ => []

/-- The packets that the device takes in a sequence of operations, in order. -/
def accepted : Plane → List PlaneOp → List Packet
  | _, [] => []
  | plane, operation :: rest => plane.accepts operation ++ (plane.step operation).accepted rest

variable {settings : Settings} {device : Device} {clock : Clock} {plane : Plane} {size : Nat}
  {packets : List Packet}

theorem accepts_of_sent {packet : Packet} {latency : Nat} {receipt : Receipt}
    (sent : (plane.link.send packet latency plane.clock.now).1 = .ok receipt) :
    plane.accepts (.part (.link (.send packet latency))) = [packet] := by
  simp only [accepts, sent]

/-- All descriptors that are handed over are those of packets that the device takes, and those of
receive buffers. -/
theorem admits_of_accepts (sized : plane.datapath.Sized size packets) (operation : PlaneOp) :
    operation.Admits (Descriptor.Given size (packets ++ plane.accepts operation)) plane := by
  cases operation with
  | part op =>
      cases op with
      | link op =>
          cases op with
          | send packet latency =>
              intro receipt mapping sent direction
              rw [accepts_of_sent sent]
              exact Descriptor.given_of_sent direction
                (List.mem_append_right _ (List.mem_singleton_self packet))
          | postReceive id number =>
              intro mapping direction
              exact Descriptor.given_of_received direction sized.bufferSize
          | _ => trivial
      | _ => trivial
  | _ => trivial

theorem sized_step (sized : plane.datapath.Sized size packets) (operation : PlaneOp) :
    (plane.step operation).datapath.Sized size (packets ++ plane.accepts operation) :=
  (Datapath.sized_invariant _ _).planeStep (Datapath.sized_poolInvariant _ _)
    (admits_of_accepts sized operation) (sized.mono fun _ => List.mem_append_left _)

theorem sized_run (sized : plane.datapath.Sized size packets) (operations : List PlaneOp) :
    (plane.run operations).datapath.Sized size (packets ++ plane.accepted operations) := by
  induction operations generalizing plane packets with
  | nil =>
      rw [accepted, List.append_nil]
      exact sized
  | cons operation rest ih =>
      rw [accepted, ← List.append_assoc]
      exact ih (sized_step sized operation)

/-- A packet that the device takes is in flight after one of the operations. -/
theorem inFlight_of_accepted {packet : Packet} {operations : List PlaneOp}
    (member : packet ∈ plane.accepted operations) :
    ∃ earlier, earlier <+: operations ∧ ∃ id mapping, packet.descriptor mapping ∈
      ((plane.run earlier).datapath.device.ring id).inFlight := by
  induction operations generalizing plane with
  | nil => cases member
  | cons operation rest ih =>
      rcases List.mem_append.1 member with now | later
      · obtain ⟨latency, rfl⟩ : ∃ latency, operation = .part (.link (.send packet latency)) := by
          unfold accepts at now
          split at now
          · split at now
            · exact ⟨_, by rw [List.mem_singleton.1 now]⟩
            · cases now
          · cases now
        cases result : plane.link.send packet latency plane.clock.now with
        | mk outcome after =>
            simp only [accepts, result] at now
            cases outcome with
            | error error => cases now
            | ok receipt =>
                obtain ⟨mapping, flying⟩ := Link.inFlight_of_sent result
                refine ⟨_, List.prefix_append [_] rest, receipt.queue, mapping, ?_⟩
                have same : after = (plane.link.send packet latency plane.clock.now).2 := by
                  rw [result]
                rw [same] at flying
                exact flying
      · obtain ⟨earlier, isPrefix, found⟩ := ih later
        exact ⟨operation :: earlier, (List.cons_prefix_cons).2 ⟨rfl, isPrefix⟩, found⟩

theorem accepted_append (plane : Plane) (first second : List PlaneOp) :
    plane.accepted (first ++ second) =
      plane.accepted first ++ (plane.run first).accepted second := by
  induction first generalizing plane with
  | nil => rfl
  | cons operation rest ih =>
      rw [List.cons_append, accepted, accepted, ih, List.append_assoc]
      rfl

end Plane

/-! ## Bytes received -/

namespace Link

variable {link : Link} {id : QueueId} {queue : Queue}

theorem rxBytes_account (link : Link) (id : QueueId) (flow : FlowId) (bytes : Nat)
    (direction : Direction) (now : Nat) :
    (link.account id flow bytes direction now).datapath.stats.rxBytes =
      link.datapath.stats.rxBytes := by
  rcases link.datapath_account id flow bytes direction now with same | same
  · rw [same]
  · rw [same]
    rfl

/-- A received packet is accounted for with the bytes of its completion. -/
theorem rxBytes_finish (id : QueueId) (now : Nat) (link : Link) (completion : Completion) :
    (finish id now link completion).datapath.stats.rxBytes =
      link.datapath.stats.rxBytes + if completion.isReceived then completion.len else 0 := by
  unfold finish finishOne Completion.isReceived
  cases completion.status with
  | ok =>
      cases completion.descriptor.direction with
      | rx =>
          simp only []
          cases completion.flow <|> completion.descriptor.flow with
          | none => rfl
          | some flow => exact rxBytes_account (link.countReceived completion.len) id flow _ .rx now
      | tx => rfl
  | error => rfl
  | dropped => rfl

/-- Received packets of no more than some bytes each. -/
theorem rxBytes_finishAll (id : QueueId) (now : Nat) {size : Nat} {completions : List Completion}
    (within : ∀ completion ∈ completions, completion.isReceived = true → completion.len ≤ size)
    (link : Link) :
    (completions.foldl (finish id now) link).datapath.stats.rxBytes ≤
      link.datapath.stats.rxBytes + completions.countP Completion.isReceived * size := by
  induction completions generalizing link with
  | nil => exact Nat.le_add_right _ _
  | cons completion rest ih =>
      have later := ih (fun other member => within other (List.mem_cons_of_mem _ member))
        (finish id now link completion)
      have first := within completion List.mem_cons_self
      rw [rxBytes_finish] at later
      rw [List.foldl_cons, List.countP_cons, Nat.add_mul]
      refine later.trans ?_
      cases received : completion.isReceived with
      | true =>
          have small := first received
          simp only [if_true]
          omega
      | false =>
          simp only [Bool.false_eq_true, if_false]
          omega

theorem rxBytes_cleared (link : Link) (id : QueueId) (budget : Option Nat) :
    (link.cleared id budget).datapath.stats.rxBytes = link.datapath.stats.rxBytes := by
  have heard : (link.datapath.takeEvents id).2.stats.rxBytes = link.datapath.stats.rxBytes := by
    unfold Datapath.takeEvents
    cases link.datapath.channel? id <;> rfl
  unfold cleared settle
  simp only [Datapath.giveBackAll_eq]
  split <;> exact heard

/-- Each received packet that a drain reports accounts for no more than some bytes. -/
theorem rxBytes_drain {budget : Option Nat} {now size : Nat} {report : DrainReport} {after : Link}
    (within : ∀ completion ∈ (link.datapath.device.ring id).completed,
      completion.isReceived = true → completion.len ≤ size)
    (drained : link.drain id budget now = (.ok report, after)) :
    after.datapath.stats.rxBytes ≤ link.datapath.stats.rxBytes + report.rxPackets * size := by
  cases found : link.registry.queues.get? id with
  | none =>
      rw [drain_of_absent found] at drained
      cases congrArg Prod.fst drained
  | some queue =>
      have answer := drain_fst found budget now
      obtain ⟨_, result⟩ := drain_eq found budget now
      have collected : ∀ completion ∈ link.collected id budget,
          completion.isReceived = true → completion.len ≤ size :=
        fun completion member => within completion (List.mem_of_mem_take member)
      have bytes := rxBytes_finishAll id now collected (link.cleared id budget)
      rw [rxBytes_cleared] at bytes
      rw [drained] at answer result
      cases answer
      cases result
      exact bytes

end Link

/-! ## All planes that are reached -/

/-- No descriptor that the device holds is longer than the buffers. -/
def Datapath.WithinBuffers (datapath : Datapath) : Prop :=
  ∀ id, ∀ descriptor ∈ (datapath.device.ring id).descriptors, descriptor.len ≤ datapath.bufferSize

/-- Descriptors stay within the buffers as long as the packets do. -/
theorem Datapath.Sized.withinBuffers {size : Nat} {packets : List Packet} {datapath : Datapath}
    (sized : datapath.Sized size packets) (small : ∀ packet ∈ packets, packet.len ≤ size) :
    datapath.WithinBuffers := by
  intro id descriptor member
  have given := (sized.rings id).descriptors descriptor member
  unfold Descriptor.Given at given
  rw [sized.bufferSize]
  split at given
  · exact given.le
  · obtain ⟨packet, taken, same⟩ := given
    rw [same]
    exact small packet taken

namespace Plane

variable {settings : Settings} {device : Device} {clock : Clock} {plane : Plane} {size : Nat}
  {packets : List Packet}

/-- What holds of a plane with buffers of some size when its device has taken some packets. -/
structure Measured (size : Nat) (packets : List Packet) (plane : Plane) : Prop where
  bufferSize : plane.datapath.bufferSize = size
  pools : ∀ node pool, plane.datapath.pools.pool? node = some pool → pool.bufferSize = size
  received : ∀ id, ∀ descriptor ∈ (plane.datapath.device.ring id).descriptors,
    descriptor.direction = .rx → descriptor.len = size
  sent : ∀ id, ∀ descriptor ∈ (plane.datapath.device.ring id).descriptors,
    descriptor.direction = .tx → ∃ packet ∈ packets, descriptor = packet.descriptor descriptor.mapping
  completed : ∀ id, ∀ completion ∈ (plane.datapath.device.ring id).completed,
    completion.len ≤ completion.descriptor.len
  /-- A received packet accounts for no more bytes than fit into a buffer. -/
  drained : ∀ {id budget report after},
    plane.link.drain id budget plane.clock.now = (.ok report, after) →
    after.datapath.stats.rxBytes ≤ plane.datapath.stats.rxBytes + report.rxPackets * size

theorem Measured.of_sized (sized : plane.datapath.Sized size packets) :
    plane.Measured size packets := by
  have received : ∀ id, ∀ descriptor ∈ (plane.datapath.device.ring id).descriptors,
      descriptor.direction = .rx → descriptor.len = size := by
    intro id descriptor member direction
    have given := (sized.rings id).descriptors descriptor member
    unfold Descriptor.Given at given
    rwa [direction] at given
  constructor
  case bufferSize => exact sized.bufferSize
  case pools => exact sized.pools
  case received => exact received
  case sent =>
    intro id descriptor member direction
    have given := (sized.rings id).descriptors descriptor member
    unfold Descriptor.Given at given
    rwa [direction] at given
  case completed => exact fun id => (sized.rings id).completions
  case drained =>
    intro id budget report after drained
    apply Link.rxBytes_drain _ drained
    intro completion held isReceived
    have direction := (Bool.and_eq_true_iff.1 isReceived).2
    have length := received id completion.descriptor
      (List.mem_append_right _ (List.mem_map_of_mem held)) (beq_iff_eq.1 direction)
    exact ((sized.rings id).completions completion held).trans_eq length

/-- A new plane over an idle device has given it nothing. -/
theorem sized_of_start (started : start settings device clock = .ok plane) (idle : device.Idle) :
    plane.datapath.Sized settings.pool.bufferSize.toNat [] := by
  obtain ⟨registry, made⟩ := started_of_start started
  have attached : (newDatapath settings
      (device.attachedTo settings.completionChannelCapacity.toNat registry.queueIds)
      registry.queueIds).Sized settings.pool.bufferSize.toNat [] := by
    refine ⟨rfl, .full _ _ _, fun id => ?_⟩
    have empty : (device.attachedTo settings.completionChannelCapacity.toNat
        registry.queueIds).ring id = {} := by
      show (device.rings.get? id).getD {} = {}
      rw [idle.rings]
      rfl
    rw [newDatapath, empty]
    exact .empty _
  have invariant := Datapath.sized_invariant settings.pool.bufferSize.toNat []
  rw [made.assembled]
  exact invariant.pushInterval _ _ (invariant.pushAffinity _ attached)

/-- In every plane that is reached receive descriptors are as long as the buffers, and what they
account for is no more. Descriptors stay within the buffers all the time if and only if no packet
that the device takes is longer than a buffer. -/
theorem measured_run_iff (started : start settings device clock = .ok plane) (idle : device.Idle)
    (operations : List PlaneOp) :
    (plane.run operations).Measured settings.pool.bufferSize.toNat (plane.accepted operations) ∧
      ((∀ earlier, earlier <+: operations → (plane.run earlier).datapath.WithinBuffers) ↔
        ∀ packet ∈ plane.accepted operations, packet.len ≤ settings.pool.bufferSize.toNat) := by
  have sized : ∀ earlier, (plane.run earlier).datapath.Sized settings.pool.bufferSize.toNat
      (plane.accepted earlier) := sized_run (sized_of_start started idle)
  refine ⟨.of_sized (sized operations), ?_, ?_⟩
  · intro within packet member
    obtain ⟨earlier, isPrefix, id, mapping, flying⟩ := inFlight_of_accepted member
    have small := within earlier isPrefix id _ (List.mem_append_left _ flying)
    rwa [(sized earlier).bufferSize] at small
  · rintro small earlier ⟨later, rfl⟩
    apply (sized earlier).withinBuffers
    intro packet member
    apply small packet
    rw [accepted_append]
    exact List.mem_append_left _ member

/-- A packet of 40 bytes and one of 64 go into buffers of 64 bytes. -/
theorem measured_run_of_fitting_packets :
    let settings : Settings := {
      queueCount := 1, maxQueues := 1, numaNodes := 1, processorCount := 4
      pool := { buffersPerNode := 4, bufferSize := 64 } }
    let operations : List PlaneOp := [
      .part (.link (.postReceive 0 2)), .part (.link (.send { flow := 7, len := 40 } 5)),
      .part (.device (.receive 0 9 100)), .part (.link (.send { flow := 8, len := 64 } 5)),
      .part (.link (.drain 0 (some 8)))]
    ∃ plane, start settings { ringCapacity := 4 } {} = .ok plane ∧
      plane.accepted operations = [{ flow := 7, len := 40 }, { flow := 8, len := 64 }] ∧
      (plane.run operations).Measured 64 (plane.accepted operations) ∧
      (plane.run operations).datapath.WithinBuffers := by
  intro settings operations
  have started : start settings { ringCapacity := 4 } {} = .ok _ :=
    start_of_room rfl rfl (by decide) rfl (by decide)
  obtain ⟨measured, within⟩ := measured_run_iff started ⟨rfl, rfl⟩ operations
  exact ⟨_, started, by decide, measured, within.2 (by decide) operations (List.prefix_refl _)⟩

/-- A packet of 100 bytes is in flight out of a buffer of 64 bytes. -/
theorem overlong_packet :
    let settings : Settings := {
      queueCount := 1, maxQueues := 1, numaNodes := 1, processorCount := 4
      pool := { buffersPerNode := 2, bufferSize := 64 } }
    let operations : List PlaneOp := [.part (.link (.send { flow := 1, len := 100 } 0))]
    ∃ plane, start settings { ringCapacity := 64 } {} = .ok plane ∧
      (plane.run operations).datapath.bufferSize = 64 ∧
      ((plane.run operations).datapath.device.ring 0).inFlight.map (·.len) = [100] ∧
      ¬(plane.run operations).datapath.WithinBuffers := by
  intro settings operations
  have started : start settings { ringCapacity := 64 } {} = .ok _ :=
    start_of_room rfl rfl (by decide) rfl (by decide)
  refine ⟨_, started, by decide, by decide, fun within => ?_⟩
  have small := within 0 {
    mapping := { address := 0x1000, buffer := { node := 0, index := 0 }, direction := .tx }
    len := 100
    flow := some 1 } (by decide)
  exact absurd small (by decide)

end Plane

end FlowSteer
