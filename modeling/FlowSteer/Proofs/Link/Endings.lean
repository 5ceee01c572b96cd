import FlowSteer.Proofs.Link.Invariants

/-!
# How transfers end, in full

For a link whose pools are in order, everything that sending a packet or posting receive buffers can
come to, with its outcome and the whole state it leaves:

1. `submit_of_full`, `submit_of_room`: handing descriptors over;
2. `send_refused`: the ways in which a packet is refused;
3. `postReceive_endings`: posting receive buffers, refused or not.

Buffers and mappings go back in every refusal. Pending work is taken back too; only a count that has
run over on the way stays as it is (`Queue.withdraw_of_fits`).
-/

namespace FlowSteer

/-- The queue after work was counted and taken back. A count that has run over can be too small for
that. -/
def Queue.withdraw (queue : Queue) (work : Nat) : Queue :=
  let counted := addWrapping queue.pending work
  { queue with pending := if counted < work then counted else counted - work }

theorem Queue.withdraw_of_fits {queue : Queue} {work : Nat}
    (fits : queue.pending + work < wordSize) : queue.withdraw work = queue := by
  have enough : ¬queue.pending + work < work := Nat.not_lt.2 (Nat.le_add_left work queue.pending)
  unfold withdraw
  simp only [addWrapping_of_lt fits, enough, if_false, Nat.add_sub_cancel]

namespace Registry

variable {registry : Registry} {id : QueueId} {queue : Queue}

theorem addWork_of_get? (found : registry.queues.get? id = some queue) (work : Nat) :
    registry.addWork id work = (.ok (), registry.putQueue id (queue.addWork work)) := by
  unfold addWork updateQueue
  rw [queue_of_get? found]

theorem withdrawn (registry : Registry) (id : QueueId) (queue : Queue) (work : Nat) :
    ((registry.putQueue id (queue.addWork work)).finishWork id work).2 =
      registry.putQueue id (queue.withdraw work) := by
  have counted : (registry.putQueue id (queue.addWork work)).queues.get? id =
      some (queue.addWork work) := by rw [get?_putQueue, if_pos rfl]
  rw [finishWork_snd, adjust_of_get? counted, putQueue_putQueue]
  rfl

end Registry

namespace Link

/-- The link when a packet has been dropped that the device did not get. -/
def dropped (link : Link) (id : QueueId) (queue : Queue) (datapath : Datapath) : Link where
  registry := link.registry.putQueue id { queue with counters := queue.counters.addDrop .tx }
  datapath := datapath.count fun stats => { stats with dropped := stats.dropped + 1 }

/-- The link when the first free buffers of a pool are taken and mapped. -/
def supplied (link : Link) (node : NodeId) (pool : Pool) (number : Nat) : Link :=
  { link with datapath := link.datapath.supply node pool number }

/-- The link when some receive descriptors, as many as there are buffers, have been posted. -/
def stocked (link : Link) (id : QueueId) (queue : Queue) (pool : Pool) (number : Nat) : Link :=
  let supplied := link.datapath.supply queue.node pool number
  let descriptors := link.datapath.receiveDescriptors pool number
  { registry := link.registry.putQueue id (queue.addWork number)
    datapath := { supplied with
      device := supplied.device.putRing id ((link.datapath.device.ring id).submit descriptors)
      stats := { supplied.stats with rxPosted := supplied.stats.rxPosted + number } } }

variable {link : Link} {id : QueueId} {queue : Queue}

/-! ## Handing over -/

theorem submit_of_full (link : Link) (descriptors : List Descriptor)
    (found : link.registry.queues.get? id = some queue)
    (full : link.datapath.device.ringCapacity <
      link.datapath.device.inFlight id + descriptors.length) :
    link.submit id descriptors = (.error (.ringFull id),
      { registry := link.registry.putQueue id (queue.withdraw descriptors.length)
        datapath := (descriptors.map (·.mapping)).foldl Datapath.giveBack link.datapath }) := by
  unfold submit Device.submit
  simp only [Registry.addWork_of_get? found, full, if_true]
  rw [Registry.withdrawn]

theorem submit_of_room (link : Link) (descriptors : List Descriptor)
    (found : link.registry.queues.get? id = some queue)
    (room : link.datapath.device.inFlight id + descriptors.length ≤
      link.datapath.device.ringCapacity) :
    link.submit id descriptors = (.ok (),
      { registry := link.registry.putQueue id (queue.addWork descriptors.length)
        datapath := { link.datapath with
          device := link.datapath.device.putRing id
            ((link.datapath.device.ring id).submit descriptors) } }) := by
  unfold submit Device.submit
  simp only [Registry.addWork_of_get? found, Nat.not_lt.2 room, if_false]

/-! ## Sending -/

theorem dropPacket_of_get? (link : Link) (found : link.registry.queues.get? id = some queue) :
    link.dropPacket id .tx = link.dropped id queue link.datapath := by
  unfold dropPacket dropped Registry.countDrop
  rw [Registry.updateQueue_snd, Registry.adjust_of_get? found]
  rfl

/-- A flow for which no queue is chosen. -/
theorem steer_refused {registry : Registry} {flow : FlowId} {error : ControlError}
    (refused : registry.steer flow = .error error) :
    ∃ id, error = .outOfService id ∨ error = .noSuchQueue id := by
  unfold Registry.steer at refused
  split at refused
  · cases refused
  · split at refused
    · cases refused
      exact ⟨_, .inr rfl⟩
    · simp only [] at refused
      split at refused
      · cases refused
      · cases refused
        exact ⟨_, .inl rfl⟩

section Steered

variable {packet : Packet} {latency now : Nat} {pool : Pool} {index : Nat} {rest : List Nat}

theorem send_of_refused (steered : link.registry.steer packet.flow = .ok id)
    (found : link.registry.queues.get? id = some queue) {error : ControlError}
    {datapath : Datapath}
    (refused : link.datapath.takeBuffer queue.node .tx = (.error error, datapath)) :
    link.send packet latency now = (.error error, link.dropped id queue datapath) := by
  unfold send
  simp only [steered, Registry.queue_of_get? found, refused]
  rw [dropPacket_of_get? { link with datapath } found]
  rfl

/-- The buffer of a packet that the device has no room for is given back. -/
theorem send_of_full (steered : link.registry.steer packet.flow = .ok id)
    (found : link.registry.queues.get? id = some queue)
    (present : link.datapath.pools.pool? queue.node = some pool) (tidy : pool.Tidy queue.node)
    (next : pool.free = index :: rest) (working : link.datapath.device.faults = 0)
    (full : link.datapath.device.ringCapacity < link.datapath.device.inFlight id + 1) :
    link.send packet latency now = (.error (.ringFull id),
      link.dropped id (queue.withdraw 1) (link.datapath.turned queue.node pool 1)) := by
  have returned : [({ address := link.datapath.device.nextAddress
                      buffer := { node := pool.node, index }
                      direction := .tx } : Mapping)].foldl Datapath.giveBack
      (link.datapath.supply queue.node pool 1) = link.datapath.turned queue.node pool 1 := by
    apply Datapath.giveBackAll_supply present tidy
    · unfold Pool.available
      rw [next]
      exact Nat.le_add_left 1 rest.length
    · rw [next]
      rfl
  have submitted := submit_of_full (link.supplied queue.node pool 1)
    [packet.descriptor {
      address := link.datapath.device.nextAddress
      buffer := { node := pool.node, index }
      direction := .tx }] found full
  have withdrawn : (link.registry.putQueue id (queue.withdraw 1)).queues.get? id =
      some (queue.withdraw 1) := by rw [Registry.get?_putQueue, if_pos rfl]
  unfold supplied Packet.descriptor at submitted
  unfold send
  simp only [steered, Registry.queue_of_get? found,
    Datapath.takeBuffer_of_working present next working, submitted]
  refine congrArg (Prod.mk _) ((dropPacket_of_get? _ withdrawn).trans ?_)
  unfold dropped
  simp only [Registry.putQueue_putQueue]
  exact congrArg (Link.mk _) (congrArg (Datapath.count · _) returned)

/-- A packet for which there is a buffer, a mapping and room is sent. -/
theorem send_of_room (steered : link.registry.steer packet.flow = .ok id)
    (found : link.registry.queues.get? id = some queue)
    (present : link.datapath.pools.pool? queue.node = some pool)
    (next : pool.free = index :: rest) (working : link.datapath.device.faults = 0)
    (room : link.datapath.device.inFlight id + 1 ≤ link.datapath.device.ringCapacity) :
    (link.send packet latency now).1 =
      .ok { queue := id, buffer := { node := pool.node, index } } := by
  have submitted := submit_of_room (link.supplied queue.node pool 1)
    [packet.descriptor {
      address := link.datapath.device.nextAddress
      buffer := { node := pool.node, index }
      direction := .tx }] found room
  unfold supplied Packet.descriptor at submitted
  unfold send
  simp only [steered, Registry.queue_of_get? found,
    Datapath.takeBuffer_of_working present next working, submitted]

/-- How a packet is refused: it has no queue, or there is no buffer for it, or its buffer cannot be
mapped, or the ring is full. -/
theorem send_refused (tidy : link.datapath.pools.Tidy) {error : ControlError} {after : Link}
    (refused : link.send packet latency now = (.error error, after)) :
    ((∃ id, error = .outOfService id ∨ error = .noSuchQueue id) ∧ after = link) ∨
    ∃ id queue, link.registry.steer packet.flow = .ok id ∧
      link.registry.queues.get? id = some queue ∧
      ((error = .noBuffer queue.node ∧ after = link.dropped id queue link.datapath) ∨
      ∃ pool, link.datapath.pools.pool? queue.node = some pool ∧ 0 < pool.available ∧
        ((0 < link.datapath.device.faults ∧ (∃ reason, error = .mapRefused reason) ∧
          after = link.dropped id queue (link.datapath.misfire queue.node pool)) ∨
        (link.datapath.device.faults = 0 ∧ error = .ringFull id ∧
          after = link.dropped id (queue.withdraw 1)
            (link.datapath.turned queue.node pool 1)))) := by
  cases steered : link.registry.steer packet.flow with
  | error unsteered =>
      unfold send at refused
      rw [steered] at refused
      cases refused
      exact .inl ⟨steer_refused steered, rfl⟩
  | ok id =>
      cases found : link.registry.queues.get? id with
      | none =>
          unfold send at refused
          simp only [steered, Registry.queue_of_absent found] at refused
          cases refused
          exact .inl ⟨⟨id, .inr rfl⟩, rfl⟩
      | some queue =>
          refine .inr ⟨id, queue, rfl, found, ?_⟩
          rcases Datapath.takeBuffer_cases tidy queue.node .tx with
            ⟨_, result⟩ | ⟨pool, index, rest, present, next, ends⟩
          · rw [send_of_refused steered found result] at refused
            cases refused
            exact .inl ⟨rfl, rfl⟩
          · have stocked : 0 < pool.available := by
              unfold Pool.available
              rw [next]
              exact Nat.succ_pos rest.length
            refine .inr ⟨pool, present, stocked, ?_⟩
            rcases ends with ⟨faulty, result⟩ | ⟨working, _⟩
            · rw [send_of_refused steered found result] at refused
              cases refused
              exact .inl ⟨faulty, ⟨_, rfl⟩, rfl⟩
            · rcases Nat.lt_or_ge link.datapath.device.ringCapacity
                  (link.datapath.device.inFlight id + 1) with full | room
              · rw [send_of_full steered found present (tidy.each present) next working full]
                  at refused
                cases refused
                exact .inr ⟨working, rfl, rfl⟩
              · have sent : (link.send packet latency now).1 = _ :=
                  send_of_room steered found present next working room
                rw [refused] at sent
                cases sent

end Steered

/-! ## Posting receive buffers -/

theorem postReceive_of_absent (absent : link.registry.queues.get? id = none) (number : Nat) :
    link.postReceive id number = (.error (.noSuchQueue id), link) := by
  unfold postReceive
  rw [Registry.queue_of_absent absent]

/-- To post no buffers is refused, as if the pool were empty. -/
theorem postReceive_zero (found : link.registry.queues.get? id = some queue) :
    link.postReceive id 0 = (.error (.noBuffer queue.node), link) := by
  unfold postReceive
  rw [Registry.queue_of_get? found]
  rfl

theorem postReceive_of_refused (found : link.registry.queues.get? id = some queue)
    {error : ControlError} {datapath : Datapath}
    (refused : link.datapath.takeBuffer queue.node .rx = (.error error, datapath))
    (number : Nat) :
    link.postReceive id (number + 1) = (.error error, { link with datapath }) := by
  unfold postReceive
  rw [Registry.queue_of_get? found]
  simp only [Datapath.takeReceiveBuffers_of_refused refused]
  rfl

section Working

variable {pool : Pool} {index number : Nat} {rest : List Nat}

/-- As many buffers as the pool has are taken, up to the number asked for. -/
theorem postReceive_of_working (found : link.registry.queues.get? id = some queue)
    (present : link.datapath.pools.pool? queue.node = some pool)
    (obtained : 0 < min number pool.available) (working : link.datapath.device.faults = 0) :
    link.postReceive id number =
      match (link.supplied queue.node pool (min number pool.available)).submit id
          (link.datapath.receiveDescriptors pool (min number pool.available)) with
      | (.error error, after) => (.error error, after)
      | (.ok (), after) =>
          (.ok (min number pool.available), after.posted (min number pool.available)) := by
  have length : (link.datapath.receiveDescriptors pool (min number pool.available)).length =
      min number pool.available := by
    rw [Datapath.length_receiveDescriptors, Nat.min_assoc, Nat.min_self]
  have nonempty : ¬(link.datapath.receiveDescriptors pool
      (min number pool.available)).isEmpty = true := by
    rw [List.isEmpty_iff, ← List.length_eq_zero_iff, length]
    exact Nat.ne_of_gt obtained
  unfold postReceive
  rw [Registry.queue_of_get? found]
  simp only [Datapath.takeReceiveBuffers_of_working present working, nonempty, length]
  rfl

theorem postReceive_of_full (found : link.registry.queues.get? id = some queue)
    (present : link.datapath.pools.pool? queue.node = some pool) (tidy : pool.Tidy queue.node)
    (obtained : 0 < min number pool.available) (working : link.datapath.device.faults = 0)
    (full : link.datapath.device.ringCapacity <
      link.datapath.device.inFlight id + min number pool.available) :
    link.postReceive id number = (.error (.ringFull id),
      { registry := link.registry.putQueue id (queue.withdraw (min number pool.available))
        datapath := link.datapath.turned queue.node pool (min number pool.available) }) := by
  have length : (link.datapath.receiveDescriptors pool (min number pool.available)).length =
      min number pool.available := by
    rw [Datapath.length_receiveDescriptors, Nat.min_assoc, Nat.min_self]
  have returned := Datapath.giveBackAll_supply present tidy (Nat.min_le_right number _)
    (link.datapath.buffers_receiveDescriptors pool (min number pool.available))
  rw [← length] at full
  rw [postReceive_of_working found present obtained working,
    submit_of_full (link.supplied _ _ _) _ found full, length]
  unfold supplied
  simp only [returned]

theorem postReceive_of_room (found : link.registry.queues.get? id = some queue)
    (present : link.datapath.pools.pool? queue.node = some pool)
    (obtained : 0 < min number pool.available) (working : link.datapath.device.faults = 0)
    (room : link.datapath.device.inFlight id + min number pool.available ≤
      link.datapath.device.ringCapacity) :
    link.postReceive id number =
      (.ok (min number pool.available),
        link.stocked id queue pool (min number pool.available)) := by
  have length : (link.datapath.receiveDescriptors pool (min number pool.available)).length =
      min number pool.available := by
    rw [Datapath.length_receiveDescriptors, Nat.min_assoc, Nat.min_self]
  rw [← length] at room
  rw [postReceive_of_working found present obtained working,
    submit_of_room (link.supplied _ _ _) _ found room, length]
  rfl

end Working

/-- How posting receive buffers on a queue can end. -/
theorem postReceive_endings (tidy : link.datapath.pools.Tidy)
    (found : link.registry.queues.get? id = some queue) (number : Nat) :
    (number = 0 ∧ link.postReceive id number = (.error (.noBuffer queue.node), link)) ∨
    (0 < number ∧ ((link.datapath.pools.pool? queue.node).map Pool.available).getD 0 = 0 ∧
      link.postReceive id number = (.error (.noBuffer queue.node), link)) ∨
    ∃ pool, 0 < number ∧ link.datapath.pools.pool? queue.node = some pool ∧
      0 < pool.available ∧
      ((0 < link.datapath.device.faults ∧ ∃ reason, link.postReceive id number =
        (.error (.mapRefused reason),
          { link with datapath := link.datapath.misfire queue.node pool })) ∨
      (link.datapath.device.faults = 0 ∧
        ((link.datapath.device.ringCapacity <
            link.datapath.device.inFlight id + min number pool.available ∧
          link.postReceive id number = (.error (.ringFull id),
            { registry := link.registry.putQueue id (queue.withdraw (min number pool.available))
              datapath := link.datapath.turned queue.node pool (min number pool.available) })) ∨
        (link.datapath.device.inFlight id + min number pool.available ≤
            link.datapath.device.ringCapacity ∧
          link.postReceive id number =
            (.ok (min number pool.available),
              link.stocked id queue pool (min number pool.available)))))) := by
  cases number with
  | zero => exact .inl ⟨rfl, postReceive_zero found⟩
  | succ number =>
      rcases Datapath.takeBuffer_cases tidy queue.node .rx with
        ⟨none, result⟩ | ⟨pool, index, rest, present, next, ends⟩
      · exact .inr (.inl ⟨Nat.succ_pos number, none, postReceive_of_refused found result number⟩)
      · have stocked : 0 < pool.available := by
          unfold Pool.available
          rw [next]
          exact Nat.succ_pos rest.length
        have obtained : 0 < min (number + 1) pool.available := lt_min (Nat.succ_pos number) stocked
        refine .inr (.inr ⟨pool, Nat.succ_pos number, present, stocked, ?_⟩)
        rcases ends with ⟨faulty, result⟩ | ⟨working, _⟩
        · exact .inl ⟨faulty, _, postReceive_of_refused found result number⟩
        · refine .inr ⟨working, ?_⟩
          rcases Nat.lt_or_ge link.datapath.device.ringCapacity
              (link.datapath.device.inFlight id + min (number + 1) pool.available) with full | room
          · exact .inl ⟨full,
              postReceive_of_full found present (tidy.each present) obtained working full⟩
          · exact .inr ⟨room, postReceive_of_room found present obtained working room⟩

end Link

end FlowSteer
