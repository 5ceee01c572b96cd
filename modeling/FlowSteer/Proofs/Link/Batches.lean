import FlowSteer.Proofs.Buffers.Steps
import FlowSteer.Proofs.Link.Emptying

/-!
# One drain after another

A drain first gives the buffers of its completions back and takes their work off, and then accounts
for each of them. Accounting sees neither buffers nor rings nor pending work, so that all of the
first part can as well come last, as one step (`Link.release`).

1. `Registry.record_takeOff`: whether and how a packet is counted does not depend on pending work.
2. `Link.finishAll_release`: accounting and release can be exchanged; hence `Link.drain_snd`.
3. `Link.drain_drain`: a drain that follows another one reports what is left for it, and both lead
   to where one drain within both budgets leads.
-/

namespace FlowSteer

/-! ## Pending work -/

/-- The queue with some of its pending work taken off. -/
def Queue.takeOff (work : Nat) (queue : Queue) : Queue :=
  { queue with pending := queue.pending - work }

@[simp] theorem Queue.flows_takeOff (queue : Queue) (work : Nat) :
    (queue.takeOff work).flows = queue.flows := rfl

theorem Queue.reception_takeOff (queue : Queue) (work : Nat) (id : QueueId)
    (owner : Option QueueId) (flow : FlowId) (bytes : Nat) (direction : Direction) (now : Nat) :
    (queue.takeOff work).reception id owner flow bytes direction now =
      (queue.reception id owner flow bytes direction now).map (takeOff work) := by
  unfold reception
  show (if queue.flows.contains flow then _ else if queue.isFailed then _ else _) = _
  split
  · rfl
  · split
    · rfl
    · cases owner.filter (· ≠ id) with
      | some owner => rfl
      | none =>
          show (if queue.flows.capacity ≤ queue.flows.size then _ else _) = _
          simp only []
          split <;> rfl

namespace Registry

variable {registry : Registry} {id : QueueId} {queue : Queue}

/-- The registry with some of the pending work of one queue taken off. -/
def takeOff (id : QueueId) (work : Nat) (registry : Registry) : Registry :=
  { registry with
    queues := registry.queues.map fun other => Queue.takeOff (if other = id then work else 0) }

theorem get?_takeOff (registry : Registry) (id : QueueId) (work : Nat) (other : QueueId) :
    (registry.takeOff id work).queues.get? other =
      (registry.queues.get? other).map (Queue.takeOff (if other = id then work else 0)) :=
  registry.queues.get?_map _ other

@[simp] theorem ownerOf_takeOff (registry : Registry) (id : QueueId) (work : Nat)
    (flow : FlowId) : (registry.takeOff id work).ownerOf flow = registry.ownerOf flow := rfl

/-- Work that is pending is taken off. -/
theorem finishWork_eq_takeOff (found : registry.queues.get? id = some queue) {work : Nat}
    (enough : work ≤ queue.pending) :
    registry.finishWork id work = (.ok (queue.pending - work), registry.takeOff id work) := by
  rw [finishWork_of_le found enough]
  refine Prod.ext rfl (ext_lookups rfl rfl (fun other => ?_) fun _ => rfl)
  rw [get?_putQueue, get?_takeOff]
  by_cases same : other = id
  · rw [if_pos same, if_pos same, same, found]
    rfl
  · rw [if_neg same, if_neg same]
    exact Option.map_id'.symm

theorem takeOff_takeOff (registry : Registry) (id : QueueId) (first second : Nat) :
    (registry.takeOff id first).takeOff id second = registry.takeOff id (first + second) := by
  refine ext_lookups rfl rfl (fun other => ?_) fun _ => rfl
  rw [get?_takeOff, get?_takeOff, get?_takeOff, Option.map_map]
  congr 1
  funext queue
  by_cases same : other = id
  · simp only [if_pos same, Function.comp_apply, Queue.takeOff, Nat.sub_sub]
  · simp only [if_neg same, Function.comp_apply, Queue.takeOff, Nat.sub_zero]

theorem takeOff_putQueue (registry : Registry) (id : QueueId) (work : Nat) (other : QueueId)
    (queue : Queue) : (registry.putQueue other queue).takeOff id work =
      (registry.takeOff id work).putQueue other
        (queue.takeOff (if other = id then work else 0)) := by
  refine ext_lookups rfl rfl (fun third => ?_) fun _ => rfl
  rw [get?_takeOff, get?_putQueue, get?_putQueue, get?_takeOff]
  by_cases same : third = other
  · rw [if_pos same, if_pos same, same]
    rfl
  · rw [if_neg same, if_neg same]

/-- Whether and how a packet is counted does not depend on pending work. -/
theorem record_takeOff (registry : Registry) (id : QueueId) (work : Nat) (other : QueueId)
    (flow : FlowId) (bytes : Nat) (direction : Direction) (now : Nat) :
    (registry.takeOff id work).record other flow bytes direction now =
      ((registry.record other flow bytes direction now).1,
        (registry.record other flow bytes direction now).2.takeOff id work) := by
  rw [record_eq, record_eq, get?_takeOff, ownerOf_takeOff]
  cases registry.queues.get? other with
  | none => rfl
  | some queue =>
      simp only [Option.map_some, Queue.flows_takeOff, Queue.reception_takeOff]
      cases queue.reception other (registry.ownerOf flow) flow bytes direction now with
      | error error => rfl
      | ok after =>
          simp only [Except.map, ← takeOff_putQueue]
          rfl

/-- A change of one queue that does not depend on pending work. -/
theorem updateQueue_takeOff {change : Queue → Queue}
    (blind : ∀ (queue : Queue) (work : Nat), change (queue.takeOff work) =
      (change queue).takeOff work)
    (registry : Registry) (id : QueueId) (work : Nat) (other : QueueId) :
    ((registry.takeOff id work).updateQueue other change).2 =
      (registry.updateQueue other change).2.takeOff id work := by
  unfold updateQueue Registry.queue
  rw [get?_takeOff]
  cases registry.queues.get? other with
  | none => rfl
  | some queue => simp only [Option.map_some, blind, takeOff_putQueue]

end Registry

/-! ## Release -/

namespace Link

variable {link : Link} {id : QueueId} {queue : Queue} {now : Nat}

/-- Takes completions of a queue off its ring and off its pending work, and gives their buffers and
mappings back. -/
def release (id : QueueId) (completions : List Completion) (link : Link) : Link where
  registry := link.registry.takeOff id completions.length
  datapath := { link.datapath with
    pools := completions.foldl (fun pools completion => pools.release completion.mapping.buffer)
      link.datapath.pools
    device := { link.datapath.device with
      rings := link.datapath.device.rings.modify id fun ring =>
        { ring with completed := ring.completed.drop completions.length }
      mapped := link.datapath.device.mapped - completions.length } }

@[simp] theorem registry_release (id : QueueId) (completions : List Completion) (link : Link) :
    (link.release id completions).registry = link.registry.takeOff id completions.length := rfl

theorem release_append (id : QueueId) (earlier later : List Completion) (link : Link) :
    (link.release id earlier).release id later = link.release id (earlier ++ later) := by
  unfold release
  simp only [Registry.takeOff_takeOff, IdMap.modify_modify, List.foldl_append,
    List.length_append, Nat.sub_sub, Function.comp_def, List.drop_drop]

theorem account_release (id : QueueId) (completions : List Completion) (link : Link)
    (other : QueueId) (flow : FlowId) (bytes : Nat) (direction : Direction) (now : Nat) :
    (link.release id completions).account other flow bytes direction now =
      (link.account other flow bytes direction now).release id completions := by
  unfold account
  simp only [registry_release, Registry.record_takeOff]
  cases link.registry.record other flow bytes direction now with
  | mk outcome after =>
      cases outcome with
      | ok _ => rfl
      | error error =>
          cases error with
          | ownedElsewhere _ owner =>
              simp only [Registry.record_takeOff]
              cases after.record owner flow bytes direction now with
              | mk outcome after => cases outcome <;> rfl
          | _ => rfl

/-- Accounting for a completion and a release can be exchanged. -/
theorem finish_release (id : QueueId) (completions : List Completion) (now : Nat) (link : Link)
    (completion : Completion) :
    finish id now (link.release id completions) completion =
      (finish id now link completion).release id completions := by
  unfold finish finishOne
  cases completion.status with
  | ok =>
      cases completion.descriptor.direction with
      | rx =>
          simp only []
          cases completion.flow <|> completion.descriptor.flow with
          | none => rfl
          | some flow =>
              exact account_release id completions (link.countReceived completion.len) id flow
                completion.len .rx now
      | tx => rfl
  | error =>
      have same : ∀ direction, ((link.registry.takeOff id completions.length).countError id
          direction).2 = (link.registry.countError id direction).2.takeOff id completions.length :=
        fun direction => Registry.updateQueue_takeOff (fun _ _ => rfl) _ _ _ _
      simp only [registry_release, same]
      rfl
  | dropped =>
      have same : ∀ direction, ((link.registry.takeOff id completions.length).countDrop id
          direction).2 = (link.registry.countDrop id direction).2.takeOff id completions.length :=
        fun direction => Registry.updateQueue_takeOff (fun _ _ => rfl) _ _ _ _
      unfold dropPacket
      simp only [registry_release, same]
      rfl

theorem finishAll_release (id : QueueId) (completions : List Completion) (now : Nat) (link : Link)
    (finished : List Completion) :
    finished.foldl (finish id now) (link.release id completions) =
      (finished.foldl (finish id now) link).release id completions := by
  induction finished generalizing link with
  | nil => rfl
  | cons completion rest ih => rw [List.foldl_cons, finish_release, ih, List.foldl_cons]

/-! ## One drain -/

/-- Number of completions of a queue that wait to be drained. -/
def backlog (link : Link) (id : QueueId) : Nat := (link.datapath.device.ring id).completed.length

/-- Every completion of the queue is pending work. -/
def Backed (link : Link) (id : QueueId) : Prop :=
  ∃ queue, link.registry.queues.get? id = some queue ∧ link.backlog id ≤ queue.pending

instance (link : Link) (id : QueueId) : Decidable (link.Backed id) :=
  decidable_of_iff ((link.registry.queues.get? id).any fun queue => link.backlog id ≤ queue.pending)
    (by simp [Backed, Option.any_eq_true])

theorem length_collected_le_backlog (link : Link) (id : QueueId) (budget : Option Nat) :
    (link.collected id budget).length ≤ link.backlog id :=
  List.length_take_le' _ _

/-- The link after the waiting events of a queue are taken. -/
def hear (link : Link) (id : QueueId) : Link :=
  { link with datapath := (link.datapath.takeEvents id).2 }

/-- A ring loses as many completions as a drain collects. -/
theorem rings_polled (link : Link) (id : QueueId) (budget : Option Nat) :
    let device := link.datapath.device
    (device.rings.modify id fun ring =>
        (ring.poll (budget.getD (device.ring id).completed.length)).2) =
      device.rings.modify id fun ring =>
        { ring with completed := ring.completed.drop (link.collected id budget).length } := by
  intro device
  cases held : device.rings.get? id with
  | none => rw [IdMap.modify_of_absent held, IdMap.modify_of_absent held]
  | some ring =>
      have same : link.datapath.device.ring id = ring := by
        unfold Device.ring
        rw [held]
        rfl
      rw [IdMap.modify_of_get? held, IdMap.modify_of_get? held, collected, List.length_take, same]
      refine congrArg (fun completed => device.rings.insert id { ring with completed }) ?_
      exact List.drop_eq_drop_min

/-- What a drain collects is released. -/
theorem cleared_eq (found : link.registry.queues.get? id = some queue) {budget : Option Nat}
    (enough : (link.collected id budget).length ≤ queue.pending) :
    link.cleared id budget = (link.hear id).release id (link.collected id budget) := by
  obtain ⟨stats, heard⟩ := link.datapath.takeEvents_snd id
  have rings := link.rings_polled id budget
  unfold cleared settle
  simp only []
  rw [Registry.finishWork_eq_takeOff found enough, Datapath.giveBackAll_eq, Device.poll_snd,
    List.foldl_map, List.length_map]
  unfold release hear
  simp only [heard]
  rw [rings]

/-- A drain accounts for what it collects, and the release of it can come last. -/
theorem drain_snd (backed : link.Backed id) (budget : Option Nat) (now : Nat) :
    (link.drain id budget now).2 =
      ((link.collected id budget).foldl (finish id now) (link.hear id)).release id
        (link.collected id budget) := by
  obtain ⟨queue, found, enough⟩ := backed
  have within := (link.length_collected_le_backlog id budget).trans enough
  obtain ⟨report, drained⟩ := drain_eq found budget now
  rw [drained]
  show link.accounted id budget now _ = _
  rw [accounted, cleared_eq found within, finishAll_release]

end Link

/-! ## Events -/

namespace Channel

theorem receiveAll_receiveAll (channel : Channel) :
    channel.receiveAll.2.receiveAll = (0, channel.receiveAll.2) := by
  obtain ⟨capacity, waiting, isOpen⟩ := channel
  cases isOpen <;> rfl

end Channel

namespace Datapath

variable {datapath : Datapath} {id : QueueId}

/-- No event of the queue is there to be taken. -/
def Silent (datapath : Datapath) (id : QueueId) : Prop :=
  ∀ channel, datapath.channel? id = some channel → channel.receiveAll = (0, channel)

/-- A channel that is put back where it is. -/
theorem putChannel_of_channel? {channel : Channel} (listens : datapath.channel? id = some channel) :
    datapath.putChannel id channel = datapath := by
  have found := (channel?_eq_some_iff.1 listens).2
  unfold putChannel IdMap.contains
  cases parted : datapath.parted.get? id with
  | some other =>
      rw [parted] at found
      cases found
      rw [IdMap.modify_of_get? parted, IdMap.insert_of_get? parted]
      rfl
  | none =>
      rw [parted, Option.none_or] at found
      rw [IdMap.modify_of_absent parted, IdMap.insert_of_get? found]
      rfl

theorem channel?_putChannel (listens : (datapath.channel? id).isSome)
    (next : Channel) : (datapath.putChannel id next).channel? id = some next := by
  obtain ⟨earlier, before⟩ := Option.isSome_iff_exists.1 listens
  refine channel?_eq_some_iff.2 ⟨(channel?_eq_some_iff.1 before).1, ?_⟩
  unfold putChannel IdMap.contains
  cases parted : datapath.parted.get? id <;> simp [IdMap.get?_modify, parted]

theorem Silent.takeEvents (silent : datapath.Silent id) :
    datapath.takeEvents id = (0, datapath) := by
  unfold Datapath.takeEvents
  cases heard : datapath.channel? id with
  | none => rfl
  | some channel =>
      simp only [silent channel heard, putChannel_of_channel? heard]
      rfl

theorem silent_takeEvents (datapath : Datapath) (id : QueueId) :
    (datapath.takeEvents id).2.Silent id := by
  unfold Datapath.takeEvents
  cases before : datapath.channel? id with
  | none =>
      intro channel heard
      rw [before] at heard
      cases heard
  | some earlier =>
      intro channel heard
      -- The channel that is there afterwards is the one that was just emptied.
      have put : (datapath.putChannel id earlier.receiveAll.2).channel? id = some channel := heard
      rw [channel?_putChannel (Option.isSome_of_eq_some before)] at put
      obtain rfl := Option.some.inj put
      exact earlier.receiveAll_receiveAll

end Datapath

namespace Link

variable {link : Link} {id : QueueId} {queue : Queue} {now : Nat}

/-! ## Two drains -/

/-- A drain leaves the completions beyond its budget. -/
theorem completed_drain (found : link.registry.queues.get? id = some queue) (budget now : Nat) :
    ((link.drain id (some budget) now).2.datapath.device.ring id).completed =
      (link.datapath.device.ring id).completed.drop budget := by
  rw [ring_drain_eq found, if_pos rfl]
  rfl

theorem backlog_drain (found : link.registry.queues.get? id = some queue) (budget now : Nat) :
    (link.drain id (some budget) now).2.backlog id = link.backlog id - budget := by
  unfold backlog
  rw [completed_drain found, List.length_drop]

theorem Backed.drain (backed : link.Backed id) (budget now : Nat) :
    (link.drain id (some budget) now).2.Backed id := by
  have drained := drain_snd backed (some budget) now
  obtain ⟨queue, found, enough⟩ := backed
  have kept := (Spares.finishAll id now (link.collected id (some budget)) ({}, link.hear id)).work
  rw [foldl_finishOne_snd] at kept
  obtain ⟨after, present, same⟩ := kept.of_before found
  refine ⟨after.takeOff (link.collected id (some budget)).length, ?_, ?_⟩
  · rw [drained, registry_release, Registry.get?_takeOff, present, if_pos rfl]
    rfl
  · -- The release takes as much off the pending work as the drain takes off the ring.
    have pending : after.pending = queue.pending := congrArg Prod.snd same
    have size : (link.collected id (some budget)).length = min budget (link.backlog id) :=
      List.length_take
    show _ ≤ after.pending - _
    rw [backlog_drain found, pending, size]
    omega

/-- A drain leaves no event behind. -/
theorem silent_drain (backed : link.Backed id) (budget now : Nat) :
    (link.drain id (some budget) now).2.datapath.Silent id := by
  obtain ⟨stats, same⟩ :=
    datapath_finishAll id now (link.collected id (some budget)) (link.hear id)
  rw [drain_snd backed]
  intro channel heard
  change Datapath.channel? (Link.datapath (List.foldl _ _ _)) id = some channel at heard
  rw [same] at heard
  exact link.datapath.silent_takeEvents id channel heard

/-- A drain that follows another one reports the completions that were left for it, and leads to
where one drain within both budgets leads. -/
theorem drain_drain (backed : link.Backed id) (first second now : Nat) :
    (link.drain id (some first) now).2.drain id (some second) now =
      (.ok (.of 0 (((link.datapath.device.ring id).completed.drop first).take second)),
        (link.drain id (some (first + second)) now).2) := by
  -- The first drain took all events, so that there is none for the second one to take.
  have silent := silent_drain backed first now
  have unheard : (link.drain id (some first) now).2.hear id =
      (link.drain id (some first) now).2 := by
    unfold hear
    rw [silent.takeEvents]
  have left := backed.drain first now
  have later := drain_snd left (some second) now
  have together := drain_snd backed (some (first + second)) now
  have earlier := drain_snd backed (some first) now
  obtain ⟨queue, found, -⟩ := backed
  obtain ⟨after, present, -⟩ := left
  have rest : (link.drain id (some first) now).2.collected id (some second) =
      ((link.datapath.device.ring id).completed.drop first).take second := by
    unfold collected
    rw [completed_drain found]
    rfl
  have both : link.collected id (some (first + second)) = link.collected id (some first) ++
      ((link.datapath.device.ring id).completed.drop first).take second := List.take_add
  refine Prod.ext ?_ ?_
  · rw [drain_fst present, silent.takeEvents, rest]
  · -- The release of the first drain moves past the accounting of the second one.
    rw [later, rest, unheard, together, earlier, finishAll_release, release_append,
      ← List.foldl_append, ← both]

end Link

end FlowSteer
