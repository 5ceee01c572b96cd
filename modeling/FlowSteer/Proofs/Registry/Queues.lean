import FlowSteer.Proofs.Flow.Tables
import FlowSteer.Planner
import FlowSteer.Registry.Aging
import FlowSteer.Registry.Migration
import FlowSteer.Registry.Traffic

/-!
# What operations do to the queues

Each operation on the registry is described once by the states that it can leave:

* `register_cases`: a queue is registered once;
* `record_of_held`, `record_of_failed`, `record_of_foreign`, `record_of_full`, `record_of_room`: the
  order in which the rules of `record` apply; `record_eq` and `record_cases` sum them up;
* `adjust`: what is left of an operation that changes one queue, if it is there;
* `moveEnds_eq_ok_iff`, `moveFlow_cases`, `moveAll_cases`: a move is refused without a trace, or
  both ends are there and the target is in service.
-/

namespace FlowSteer

/-- The queue after a packet of a flow that it holds. -/
def Queue.addPacket (queue : Queue) (flow : FlowId) (bytes : Nat) (direction : Direction)
    (now : Nat) : Queue :=
  { queue with
    flows := queue.flows.modify flow (·.addPacket bytes now)
    counters := queue.counters.addPacket bytes direction }

theorem Queue.flows_addPacket (queue : Queue) (flow : FlowId) (bytes : Nat)
    (direction : Direction) (now : Nat) :
    (queue.addPacket flow bytes direction now).flows =
      queue.flows.modify flow (·.addPacket bytes now) := rfl

/-- The queue with a new flow in its table. -/
def Queue.takeIn (queue : Queue) (flow : FlowId) (now : Nat) : Queue :=
  { queue with flows := queue.flows.put (.fresh flow now) }

theorem Queue.get?_takeIn (queue : Queue) (flow : FlowId) (now : Nat) (other : FlowId) :
    (queue.takeIn flow now).flows.get? other =
      if other = flow then some (.fresh flow now) else queue.flows.get? other :=
  queue.flows.get?_put (.fresh flow now) other

/-- What a queue makes of a packet when the directory names some owner of its flow: a refusal, or
the queue that is left. -/
def Queue.reception (queue : Queue) (id : QueueId) (owner : Option QueueId) (flow : FlowId)
    (bytes : Nat) (direction : Direction) (now : Nat) : Except ControlError Queue :=
  if queue.flows.contains flow then .ok (queue.addPacket flow bytes direction now)
  else if queue.isFailed then .error (.outOfService id)
  else
    match owner.filter (· ≠ id) with
    | some owner => .error (.ownedElsewhere flow owner)
    | none =>
        if queue.flows.capacity ≤ queue.flows.size then .error (.tableFull id)
        else .ok ((queue.takeIn flow now).addPacket flow bytes direction now)

namespace Registry

variable {registry : Registry}

/-! ## Queues by id -/

theorem queue_eq_ok_iff {id : QueueId} {queue : Queue} :
    registry.queue id = .ok queue ↔ registry.queues.get? id = some queue := by
  unfold Registry.queue
  cases registry.queues.get? id <;> simp

theorem queue_of_get? {id : QueueId} {queue : Queue}
    (found : registry.queues.get? id = some queue) : registry.queue id = .ok queue :=
  queue_eq_ok_iff.2 found

theorem queue_of_absent {id : QueueId} (absent : registry.queues.get? id = none) :
    registry.queue id = .error (.noSuchQueue id) := by
  unfold Registry.queue
  rw [absent]

@[simp] theorem directory_putQueue (registry : Registry) (id : QueueId) (queue : Queue) :
    (registry.putQueue id queue).directory = registry.directory := rfl

theorem get?_putQueue (registry : Registry) (id other : QueueId) (queue : Queue) :
    (registry.putQueue id queue).queues.get? other =
      if other = id then some queue else registry.queues.get? other :=
  registry.queues.get?_insert id other queue

/-- Putting a queue in place again changes nothing. -/
theorem putQueue_self {id : QueueId} {queue : Queue}
    (found : registry.queues.get? id = some queue) : registry.putQueue id queue = registry := by
  unfold putQueue
  rw [IdMap.insert_of_get? found]

theorem putQueue_putQueue (registry : Registry) (id : QueueId) (first second : Queue) :
    (registry.putQueue id first).putQueue id second = registry.putQueue id second := by
  unfold putQueue
  rw [IdMap.insert_insert]

/-- The states that registering a queue can leave: as before, or with a fresh queue where there was
none. -/
theorem register_cases (registry : Registry) (id : QueueId) (node : NodeId) :
    (∃ error, registry.register id node = (.error error, registry)) ∨
    registry.queues.get? id = none ∧
      registry.register id node =
        (.ok (), registry.putQueue id (.fresh node registry.maxFlows)) := by
  by_cases tooLarge : registry.capacity ≤ id
  · exact .inl ⟨_, if_pos tooLarge⟩
  · by_cases present : registry.queues.contains id = true
    · exact .inl ⟨_, (if_neg tooLarge).trans (if_pos present)⟩
    · refine .inr ⟨?_, (if_neg tooLarge).trans (if_neg present)⟩
      rw [IdMap.get?_eq_none_iff, ← IdMap.contains_iff]
      exact present

/-- Registries that answer every look-up alike are equal. -/
theorem ext_lookups {left right : Registry} (capacity : left.capacity = right.capacity)
    (maxFlows : left.maxFlows = right.maxFlows)
    (queues : ∀ id, left.queues.get? id = right.queues.get? id)
    (owners : ∀ flow, left.ownerOf flow = right.ownerOf flow) : left = right := by
  have sameQueues : left.queues = right.queues := IdMap.ext queues
  have sameDirectory : left.directory = right.directory := IdMap.ext owners
  cases left
  cases right
  cases capacity
  cases maxFlows
  cases sameQueues
  cases sameDirectory
  rfl

/-! ## Operations on one queue -/

/-- The registry after changing one queue, if there is such a queue. -/
def adjust (registry : Registry) (id : QueueId) (change : Queue → Queue) : Registry :=
  { registry with queues := registry.queues.modify id change }

@[simp] theorem directory_adjust (registry : Registry) (id : QueueId) (change : Queue → Queue) :
    (registry.adjust id change).directory = registry.directory := rfl

theorem get?_adjust (registry : Registry) (id other : QueueId) (change : Queue → Queue) :
    (registry.adjust id change).queues.get? other =
      if other = id then (registry.queues.get? other).map change
      else registry.queues.get? other :=
  registry.queues.get?_modify id other change

theorem adjust_of_get? {id : QueueId} {queue : Queue}
    (found : registry.queues.get? id = some queue) (change : Queue → Queue) :
    registry.adjust id change = registry.putQueue id (change queue) := by
  unfold adjust
  rw [IdMap.modify_of_get? found]
  rfl

theorem adjust_of_absent {id : QueueId} (absent : registry.queues.get? id = none)
    (change : Queue → Queue) : registry.adjust id change = registry := by
  unfold adjust
  rw [IdMap.modify_of_absent absent]

theorem updateQueue_snd (registry : Registry) (id : QueueId) (change : Queue → Queue) :
    (registry.updateQueue id change).2 = registry.adjust id change := by
  unfold updateQueue
  cases found : registry.queues.get? id with
  | none => rw [queue_of_absent found, adjust_of_absent found]
  | some queue => rw [queue_of_get? found, adjust_of_get? found]

theorem setStatus_snd (registry : Registry) (id : QueueId) (status : QueueStatus) :
    (registry.setStatus id status).2 = registry.adjust id ({ · with status }) := by
  unfold setStatus
  cases found : registry.queues.get? id with
  | none => rw [queue_of_absent found, adjust_of_absent found]
  | some queue => rw [queue_of_get? found, adjust_of_get? found]

theorem clearErrors_snd (registry : Registry) (id : QueueId) (status : QueueStatus) :
    (registry.clearErrors id status).2 = registry.adjust id (·.clearErrors status) := by
  unfold clearErrors
  cases found : registry.queues.get? id with
  | none => rw [queue_of_absent found, adjust_of_absent found]
  | some queue => rw [queue_of_get? found, adjust_of_get? found]

theorem updateStatus_snd (registry : Registry) (id : QueueId)
    (choose : QueueView → Option QueueStatus) :
    (registry.updateStatus id choose).2 = registry.adjust id fun queue =>
      { queue with status := (choose (queue.view id)).getD queue.status } := by
  unfold updateStatus
  cases found : registry.queues.get? id with
  | none => rw [queue_of_absent found, adjust_of_absent found]
  | some queue =>
      rw [queue_of_get? found, adjust_of_get? found]
      cases chosen : choose (queue.view id) with
      | none => simp only [chosen, Option.getD_none, putQueue_self found]
      | some status => simp only [chosen, Option.getD_some]

/-- A status is changed, or the registry is as before. -/
theorem updateStatus_cases (registry : Registry) (id : QueueId)
    (choose : QueueView → Option QueueStatus) :
    (∃ error, registry.updateStatus id choose = (.error error, registry)) ∨
    registry.updateStatus id choose = (.ok none, registry) ∨
    ∃ status after, registry.updateStatus id choose = (.ok (some status), after) := by
  unfold updateStatus
  cases registry.queue id with
  | error error => exact .inl ⟨error, rfl⟩
  | ok queue =>
      simp only []
      cases choose (queue.view id) with
      | none => exact .inr (.inl rfl)
      | some status => exact .inr (.inr ⟨status, _, rfl⟩)

theorem finishWork_of_le {id : QueueId} {queue : Queue} {work : Nat}
    (found : registry.queues.get? id = some queue) (enough : work ≤ queue.pending) :
    registry.finishWork id work =
      (.ok (queue.pending - work),
        registry.putQueue id { queue with pending := queue.pending - work }) := by
  unfold finishWork
  rw [queue_of_get? found]
  exact if_neg (Nat.not_lt.2 enough)

/-- Completed work is taken off only when it was pending. -/
theorem finishWork_snd (registry : Registry) (id : QueueId) (work : Nat) :
    (registry.finishWork id work).2 = registry.adjust id fun queue =>
      { queue with
        pending := if queue.pending < work then queue.pending else queue.pending - work } := by
  unfold finishWork
  cases found : registry.queues.get? id with
  | none => rw [queue_of_absent found, adjust_of_absent found]
  | some queue =>
      rw [queue_of_get? found, adjust_of_get? found]
      by_cases less : queue.pending < work
      · simp only [less, if_true, putQueue_self found]
      · simp only [less, if_false]

/-! ## Counting packets -/

section Record

variable {id : QueueId} {queue : Queue} {flow : FlowId} {bytes : Nat} {direction : Direction}
  {now : Nat}

theorem record_of_absent (absent : registry.queues.get? id = none) :
    registry.record id flow bytes direction now = (.error (.noSuchQueue id), registry) := by
  unfold record
  rw [queue_of_absent absent]

/-- A flow that the queue holds is counted, whatever the status of the queue. -/
theorem record_of_held (found : registry.queues.get? id = some queue)
    (held : queue.flows.contains flow = true) :
    registry.record id flow bytes direction now =
      (.ok (), registry.putQueue id (queue.addPacket flow bytes direction now)) := by
  unfold record
  rw [queue_of_get? found]
  exact if_pos held

/-- A queue out of service refuses every flow that it does not hold, before anyone asks who owns
the flow. -/
theorem record_of_failed (found : registry.queues.get? id = some queue)
    (absent : queue.flows.contains flow = false) (failed : queue.isFailed = true) :
    registry.record id flow bytes direction now = (.error (.outOfService id), registry) := by
  unfold record
  simp only [queue_of_get? found, absent, failed, Bool.false_eq_true, if_false, if_true]

/-- A queue in service refuses a flow that another queue owns. -/
theorem record_of_foreign (found : registry.queues.get? id = some queue)
    (absent : queue.flows.contains flow = false) (inService : queue.isFailed = false)
    {owner : QueueId} (owned : registry.ownerOf flow = some owner) (other : owner ≠ id) :
    registry.record id flow bytes direction now =
      (.error (.ownedElsewhere flow owner), registry) := by
  unfold record
  simp only [queue_of_get? found, absent, inService, owned, Bool.false_eq_true, if_false,
    ne_eq, other, not_false_eq_true, if_true]

theorem accept_of_full (absent : queue.flows.contains flow = false)
    (full : queue.flows.capacity ≤ queue.flows.size) :
    registry.accept id queue flow bytes direction now = .error (.tableFull id) := by
  unfold accept FlowTable.addNew
  simp only [absent, full, Bool.false_eq_true, if_false, if_true]

theorem accept_of_room (absent : queue.flows.contains flow = false)
    (room : queue.flows.size < queue.flows.capacity) :
    registry.accept id queue flow bytes direction now =
      .ok (registry.putQueue id ((queue.takeIn flow now).addPacket flow bytes direction now)) := by
  unfold accept FlowTable.addNew
  simp only [absent, Nat.not_le.2 room, Bool.false_eq_true, if_false]
  rfl

/-- A flow that no other queue owns is refused when the table is full. -/
theorem record_of_full (found : registry.queues.get? id = some queue)
    (absent : queue.flows.contains flow = false) (inService : queue.isFailed = false)
    (owners : registry.ownerOf flow = none ∨ registry.ownerOf flow = some id)
    (full : queue.flows.capacity ≤ queue.flows.size) :
    registry.record id flow bytes direction now = (.error (.tableFull id), registry) := by
  have refused : registry.accept id queue flow bytes direction now = .error (.tableFull id) :=
    accept_of_full absent full
  unfold record
  simp only [queue_of_get? found, absent, inService, refused, Bool.false_eq_true, if_false]
  rcases owners with unowned | owned
  · rw [unowned]
  · simp only [owned, ne_eq, not_true_eq_false, if_false]

/-- A flow that no other queue owns is taken in when the table has room. -/
theorem record_of_room (found : registry.queues.get? id = some queue)
    (absent : queue.flows.contains flow = false) (inService : queue.isFailed = false)
    (owners : registry.ownerOf flow = none ∨ registry.ownerOf flow = some id)
    (room : queue.flows.size < queue.flows.capacity) :
    registry.record id flow bytes direction now =
      (.ok (), { registry.putQueue id
          ((queue.takeIn flow now).addPacket flow bytes direction now) with
        directory := registry.directory.insert flow id }) := by
  have accepted : registry.accept id queue flow bytes direction now =
      .ok (registry.putQueue id ((queue.takeIn flow now).addPacket flow bytes direction now)) :=
    accept_of_room absent room
  unfold record
  simp only [queue_of_get? found, absent, inService, accepted, Bool.false_eq_true, if_false]
  rcases owners with unowned | owned
  · rw [unowned]
    rfl
  · -- The directory names the queue already.
    have named : registry.directory.insert flow id = registry.directory :=
      IdMap.insert_of_get? owned
    simp only [owned, named, ne_eq, not_true_eq_false, if_false]
    rfl

/-- A flow is owned by a queue other than this one, or by none but this one. -/
theorem foreign_or (registry : Registry) (id : QueueId) (flow : FlowId) :
    (∃ owner, registry.ownerOf flow = some owner ∧ owner ≠ id) ∨
      registry.ownerOf flow = none ∨ registry.ownerOf flow = some id := by
  cases registry.ownerOf flow with
  | none => exact .inr (.inl rfl)
  | some owner =>
      by_cases own : owner = id
      · exact .inr (.inr (congrArg some own))
      · exact .inl ⟨owner, rfl, own⟩

/-- The answer to a packet, and what becomes of the queue that is asked, depend on this queue and on
the owner of the flow alone. -/
theorem record_eq (registry : Registry) (id : QueueId) (flow : FlowId) (bytes : Nat)
    (direction : Direction) (now : Nat) :
    registry.record id flow bytes direction now =
      match registry.queues.get? id with
      | none => (.error (.noSuchQueue id), registry)
      | some queue =>
          match queue.reception id (registry.ownerOf flow) flow bytes direction now with
          | .error error => (.error error, registry)
          | .ok after =>
              (.ok (), { registry.putQueue id after with
                directory :=
                  if queue.flows.contains flow then registry.directory
                  else registry.directory.insert flow id }) := by
  cases found : registry.queues.get? id with
  | none => exact record_of_absent found
  | some queue =>
      unfold Queue.reception
      cases held : queue.flows.contains flow with
      | true =>
          simp only [held, if_true]
          exact record_of_held found held
      | false =>
          cases failed : queue.isFailed with
          | true =>
              simp only [held, failed, Bool.false_eq_true, if_false, if_true]
              exact record_of_failed found held failed
          | false =>
              simp only [held, failed, Bool.false_eq_true, if_false]
              rcases registry.foreign_or id flow with ⟨owner, owned, other⟩ | owners
              · have foreign : (some owner).filter (fun owner => owner ≠ id) = some owner :=
                  Option.filter_some_pos (decide_eq_true other)
                simp only [owned, foreign]
                exact record_of_foreign found held failed owned other
              · have own : (registry.ownerOf flow).filter (fun owner => owner ≠ id) = none := by
                  rcases owners with unowned | owned
                  · rw [unowned]
                    rfl
                  · rw [owned]
                    exact Option.filter_some_neg (by simp)
                simp only [own]
                rcases Nat.lt_or_ge queue.flows.size queue.flows.capacity with room | full
                · rw [if_neg (Nat.not_le.2 room)]
                  exact record_of_room found held failed owners room
                · rw [if_pos full]
                  exact record_of_full found held failed owners full

/-- The states that counting a packet can leave: as before, the flow counted where it is held, or
a new flow taken in and counted. -/
theorem record_cases (registry : Registry) (id : QueueId) (flow : FlowId) (bytes : Nat)
    (direction : Direction) (now : Nat) :
    (∃ error, registry.record id flow bytes direction now = (.error error, registry)) ∨
    (∃ queue, registry.queues.get? id = some queue ∧ queue.flows.contains flow = true ∧
      registry.record id flow bytes direction now =
        (.ok (), registry.putQueue id (queue.addPacket flow bytes direction now))) ∨
    ∃ queue, registry.queues.get? id = some queue ∧ queue.flows.contains flow = false ∧
      queue.isFailed = false ∧ queue.flows.size < queue.flows.capacity ∧
      (registry.ownerOf flow = none ∨ registry.ownerOf flow = some id) ∧
      registry.record id flow bytes direction now =
        (.ok (), { registry.putQueue id
            ((queue.takeIn flow now).addPacket flow bytes direction now) with
          directory := registry.directory.insert flow id }) := by
  cases found : registry.queues.get? id with
  | none => exact .inl ⟨_, record_of_absent found⟩
  | some queue =>
      cases held : queue.flows.contains flow with
      | true => exact .inr (.inl ⟨queue, rfl, held, record_of_held found held⟩)
      | false =>
          cases failed : queue.isFailed with
          | true => exact .inl ⟨_, record_of_failed found held failed⟩
          | false =>
              rcases registry.foreign_or id flow with ⟨owner, owned, other⟩ | owners
              · exact .inl ⟨_, record_of_foreign found held failed owned other⟩
              · rcases Nat.lt_or_ge queue.flows.size queue.flows.capacity with room | full
                · exact .inr (.inr ⟨queue, rfl, held, failed, room, owners,
                    record_of_room found held failed owners room⟩)
                · exact .inl ⟨_, record_of_full found held failed owners full⟩

end Record

/-- The states that a latency sample can leave: as before, or the sample added where the directory
says that the flow is. -/
theorem recordLatency_cases (registry : Registry) (flow : FlowId) (latency : Nat) :
    (∃ error, registry.recordLatency flow latency = (.error error, registry)) ∨
    ∃ owner queue, registry.ownerOf flow = some owner ∧
      registry.queues.get? owner = some queue ∧ queue.flows.contains flow = true ∧
      registry.recordLatency flow latency =
        (.ok (), registry.putQueue owner
          { queue with flows := queue.flows.modify flow (·.addLatency latency) }) := by
  unfold recordLatency
  cases registry.ownerOf flow with
  | none => exact .inl ⟨_, rfl⟩
  | some owner =>
      simp only []
      cases found : registry.queue owner with
      | error error => exact .inl ⟨error, rfl⟩
      | ok queue =>
          simp only []
          by_cases held : queue.flows.contains flow = true
          · exact .inr ⟨owner, queue, rfl, queue_eq_ok_iff.1 found, held, if_pos held⟩
          · exact .inl ⟨_, if_neg held⟩

/-! ## Moving flows -/

/-- The checks of a move, in their order. -/
theorem moveEnds_eq (registry : Registry) (source target : QueueId) :
    registry.moveEnds source target =
      if source = target then .error (.sameQueue source)
      else
        match registry.queue source, registry.queue target with
        | .error error, _ => .error error
        | .ok _, .error error => .error error
        | .ok sourceQueue, .ok targetQueue =>
            if targetQueue.isFailed then .error (.outOfService target)
            else .ok (sourceQueue, targetQueue) := by
  unfold moveEnds
  by_cases same : source = target
  · rw [if_pos same, if_pos same]
    rfl
  · rw [if_neg same, if_neg same]
    cases registry.queue source with
    | error error => rfl
    | ok sourceQueue =>
        cases registry.queue target with
        | error error => rfl
        | ok targetQueue =>
            show (if targetQueue.isFailed = true then _ else _) =
              if targetQueue.isFailed = true then _ else _
            by_cases failed : targetQueue.isFailed = true
            · rw [if_pos failed, if_pos failed]
              rfl
            · rw [if_neg failed, if_neg failed]
              rfl

/-- A move is allowed between two different queues when the target is in service. -/
theorem moveEnds_eq_ok_iff {source target : QueueId} {sourceQueue targetQueue : Queue} :
    registry.moveEnds source target = .ok (sourceQueue, targetQueue) ↔
      source ≠ target ∧ registry.queues.get? source = some sourceQueue ∧
        registry.queues.get? target = some targetQueue ∧ targetQueue.isFailed = false := by
  rw [← queue_eq_ok_iff, ← queue_eq_ok_iff, moveEnds_eq]
  by_cases same : source = target
  · simp [same]
  · rw [if_neg same]
    cases registry.queue source with
    | error error => simp
    | ok first =>
        cases registry.queue target with
        | error error => simp
        | ok second =>
            cases failed : second.isFailed with
            | true =>
                simp only [failed, if_true, reduceCtorEq, Except.ok.injEq, false_iff]
                rintro ⟨-, -, rfl, inService⟩
                rw [failed] at inService
                cases inService
            | false =>
                simp only [failed, Bool.false_eq_true, if_false, Except.ok.injEq, Prod.mk.injEq]
                constructor
                · rintro ⟨rfl, rfl⟩
                  exact ⟨same, rfl, rfl, failed⟩
                · rintro ⟨-, rfl, rfl, -⟩
                  exact ⟨rfl, rfl⟩

/-- The checks of a move do not ask who owns a flow. -/
theorem moveEnds_ne {source target : QueueId} {flow : FlowId} {owner : QueueId} :
    registry.moveEnds source target ≠ .error (.ownedElsewhere flow owner) := by
  rw [moveEnds_eq]
  split
  · simp
  · unfold Registry.queue
    cases registry.queues.get? source <;> cases registry.queues.get? target <;> simp
    split <;> simp

/-- The states that moving one flow can leave: as before, or with the flow at its target. -/
theorem moveFlow_cases (registry : Registry) (flow : FlowId) (source target : QueueId) :
    (∃ error, registry.moveFlow flow source target = (.error error, registry)) ∨
    ∃ sourceQueue targetQueue moving,
      registry.moveEnds source target = .ok (sourceQueue, targetQueue) ∧
      sourceQueue.flows.get? flow = some moving ∧
      targetQueue.flows.contains moving.id = false ∧
      registry.moveFlow flow source target =
        (.ok (), { (registry.putQueue source
              { sourceQueue with flows := sourceQueue.flows.erase flow }).putQueue target
            { targetQueue with flows := targetQueue.flows.put moving } with
          directory := registry.directory.insert flow target }) := by
  unfold moveFlow
  cases ends : registry.moveEnds source target with
  | error error => exact .inl ⟨error, rfl⟩
  | ok pair =>
      obtain ⟨sourceQueue, targetQueue⟩ := pair
      cases found : sourceQueue.flows.get? flow with
      | none => exact .inl ⟨_, by simp only [found]; rfl⟩
      | some moving =>
          cases present : targetQueue.flows.contains moving.id with
          | true =>
              have refused : targetQueue.flows.moveIn moving = .error .duplicate := by
                rw [FlowTable.moveIn, present]
                rfl
              exact .inl ⟨_, by simp only [found, refused]; rfl⟩
          | false =>
              refine .inr ⟨sourceQueue, targetQueue, moving, rfl, found, present, ?_⟩
              simp only [found, FlowTable.moveIn_of_absent present]
              rfl

/-- The states that moving all flows of a queue can leave: as before, or with the source empty
and its flows added to the target. -/
theorem moveAll_cases (registry : Registry) (source target : QueueId) :
    (∃ error, registry.moveAll source target = (.error error, registry)) ∨
    ∃ sourceQueue targetQueue,
      registry.moveEnds source target = .ok (sourceQueue, targetQueue) ∧
      registry.moveAll source target =
        (.ok sourceQueue.flows.entries.length, { (registry.putQueue source
              { sourceQueue with flows := sourceQueue.flows.clear }).putQueue target
            { targetQueue with
              flows := sourceQueue.flows.entries.foldl FlowTable.absorb targetQueue.flows } with
          directory := registry.directory.insertAll
            (sourceQueue.flows.entries.map fun flow => (flow.id, target)) }) := by
  unfold moveAll
  cases ends : registry.moveEnds source target with
  | error error => exact .inl ⟨error, rfl⟩
  | ok pair => exact .inr ⟨pair.1, pair.2, rfl, rfl⟩

end Registry

end FlowSteer
