import FlowSteer.Proofs.Link.Drains
import FlowSteer.Proofs.Link.Frames

/-!
# What the packet path adds to its statistics

The statistics of the packet path are to agree with three other accounts: packets and drops with
the counters of the queues, descriptors with the rings of the device. The gaps between them are
integers, and each step shifts them by known amounts (`Link.Shifts`):

* `Shifts.account`, `Shifts.dropPacket`: a packet goes to a queue or is untracked, and a drop goes
  to the queue that is there;
* `Shifts.submit_taken`, `Shifts.submit_refused`: descriptors go to a ring or back;
* `Shifts.send`, `Shifts.postReceive`: what is counted and what is in the rings go together;
* `Shifts.drain`: completions leave the ring, and all but the dropped ones are counted.
-/

namespace FlowSteer

/-! ## Counters of queues -/

/-- Does the operation register no queue and count neither packets nor drops. -/
def RegistryOp.countsNothing : RegistryOp → Bool
  | register .. | record .. | countDrop .. => false
  | _ => true

namespace Queue

/-- Packets in both directions. -/
def packets (queue : Queue) : Nat := queue.counters.txPackets + queue.counters.rxPackets

/-- Dropped packets in both directions. -/
def drops (queue : Queue) : Nat := queue.counters.txDropped + queue.counters.rxDropped

/-- Packets and dropped packets. -/
def counts (queue : Queue) : Nat × Nat := (queue.packets, queue.drops)

theorem packets_addPacket (queue : Queue) (flow : FlowId) (bytes : Nat) (direction : Direction)
    (now : Nat) : (queue.addPacket flow bytes direction now).packets = queue.packets + 1 := by
  cases direction
  · exact Nat.add_right_comm ..
  · exact (Nat.add_assoc ..).symm

theorem drops_addPacket (queue : Queue) (flow : FlowId) (bytes : Nat) (direction : Direction)
    (now : Nat) : (queue.addPacket flow bytes direction now).drops = queue.drops := by
  cases direction <;> rfl

theorem packets_addDrop (queue : Queue) (direction : Direction) :
    ({ queue with counters := queue.counters.addDrop direction } : Queue).packets =
      queue.packets := by cases direction <;> rfl

theorem drops_addDrop (queue : Queue) (direction : Direction) :
    ({ queue with counters := queue.counters.addDrop direction } : Queue).drops =
      queue.drops + 1 := by
  cases direction
  · exact Nat.add_right_comm ..
  · exact (Nat.add_assoc ..).symm

end Queue

namespace Registry

/-- Packets counted on all queues. -/
def packets (registry : Registry) : Nat := registry.queues.total Queue.packets

/-- Dropped packets counted on all queues. -/
def drops (registry : Registry) : Nat := registry.queues.total Queue.drops

variable {registry before after : Registry} {id : QueueId} {queue : Queue}

theorem total_putQueue (part : Queue → Nat) (found : registry.queues.get? id = some queue)
    (changed : Queue) :
    (registry.putQueue id changed).queues.total part + part queue =
      registry.queues.total part + part changed := by
  have summed := registry.queues.total_insert part id changed
  rwa [found] at summed

theorem counts_of_keeps (same : Keeps Queue.counts before after) :
    after.packets = before.packets ∧ after.drops = before.drops :=
  ⟨(same.comp Prod.fst).total_eq, (same.comp Prod.snd).total_eq⟩

/-- What one queue counts more all of them count more. -/
theorem counts_putQueue {changed : Queue} (packets drops : Nat)
    (found : registry.queues.get? id = some queue)
    (morePackets : changed.packets = queue.packets + packets)
    (moreDrops : changed.drops = queue.drops + drops) :
    (registry.putQueue id changed).packets = registry.packets + packets ∧
      (registry.putQueue id changed).drops = registry.drops + drops := by
  have packetsTotal := total_putQueue Queue.packets found changed
  have dropsTotal := total_putQueue Queue.drops found changed
  unfold Registry.packets Registry.drops
  omega

/-- A packet that is counted is one packet more, and no drop. -/
theorem counts_record {flow : FlowId} {bytes : Nat} {direction : Direction} {now : Nat}
    (counted : registry.record id flow bytes direction now = (.ok (), after)) :
    after.packets = registry.packets + 1 ∧ after.drops = registry.drops := by
  rcases registry.record_cases id flow bytes direction now with
    ⟨_, result⟩ | ⟨queue, found, _, result⟩ | ⟨queue, found, _, _, _, _, result⟩
  · rw [result] at counted
    cases congrArg Prod.fst counted
  · rw [result] at counted
    obtain rfl := congrArg Prod.snd counted
    exact counts_putQueue 1 0 found (queue.packets_addPacket ..) (queue.drops_addPacket ..)
  · rw [result] at counted
    obtain rfl := congrArg Prod.snd counted
    exact counts_putQueue 1 0 found ((queue.takeIn flow now).packets_addPacket ..)
      ((queue.takeIn flow now).drops_addPacket ..)

/-- A drop on a queue that is there is one drop more, and no packet. -/
theorem counts_countDrop (found : registry.queues.get? id = some queue) (direction : Direction) :
    (registry.countDrop id direction).2.packets = registry.packets ∧
      (registry.countDrop id direction).2.drops = registry.drops + 1 := by
  rw [countDrop, updateQueue_snd, adjust_of_get? found]
  exact counts_putQueue 0 1 found (queue.packets_addDrop direction) (queue.drops_addDrop direction)

/-- No operation but the registration of queues and the counting of packets and drops changes what
queues count. -/
theorem keepsCounts (registry : Registry) (now : Nat) (op : RegistryOp)
    (quiet : op.countsNothing = true) : Keeps Queue.counts registry (op.apply now registry) := by
  have flows : Queue.BlindToFlows Queue.counts := fun _ _ => rfl
  have adjusted : ∀ {after : Registry} {other : QueueId} {change : Queue → Queue},
      after = registry.adjust other change → (∀ queue, (change queue).counts = queue.counts) →
      Keeps Queue.counts registry after := by
    intro after other change result same
    rw [result]
    exact keeps_adjust same other
  cases op with
  | register other node => cases quiet
  | record other flow size towards => cases quiet
  | countDrop other towards => cases quiet
  | recordLatency flow latency => exact keeps_recordLatency flows flow latency
  | countError other towards =>
      refine adjusted (updateQueue_snd registry other _) fun _ => ?_
      cases towards <;> rfl
  | addWork other work => exact adjusted (updateQueue_snd registry other _) fun _ => rfl
  | finishWork other work => exact adjusted (finishWork_snd registry other work) fun _ => rfl
  | setStatus other status => exact adjusted (setStatus_snd registry other status) fun _ => rfl
  | clearErrors other status => exact adjusted (clearErrors_snd registry other status) fun _ => rfl
  | updateStatus other choose =>
      exact adjusted (updateStatus_snd registry other choose) fun _ => rfl
  | moveFlow flow source target => exact keeps_moveFlow flows flow source target
  | moveAll source target => exact keeps_moveAll flows source target
  | forgetIdle time timeout => exact keeps_forgetIdle flows time timeout
  | forgetAll => exact keeps_forgetAll flows
  | bindAll planner => exact keeps_bind (fun _ _ => rfl) _
  | rebalance planner => exact keeps_bind (fun _ _ => rfl) _

/-- The packet path does not unregister queues. -/
theorem Leads.present {now : Nat} (leads : Leads RegistryOp.byLink now before after)
    (found : before.queues.get? id = some queue) : ∃ left, after.queues.get? id = some left := by
  have same : Keeps (fun _ => ()) before after :=
    leads.keeps fun _ op allowed => keeps_byLink (fun _ _ _ => rfl) (fun _ _ => rfl) op allowed
  obtain ⟨left, present, -⟩ := same.of_before found
  exact ⟨left, present⟩

end Registry

/-! ## Steps that are not counted -/

/-- The statistics that are balanced. -/
def LinkStats.books (stats : LinkStats) : LinkStats :=
  { stats with txBytes := 0, rxBytes := 0, events := 0, underflows := 0 }

/-- Neither what is in the rings nor the statistics that are balanced are changed. -/
structure Datapath.Undisturbed (before after : Datapath) : Prop where
  stats : after.stats.books = before.stats.books
  buffers : after.device.buffers = before.device.buffers

namespace Datapath.Undisturbed

variable {before middle after : Datapath}

theorem refl (datapath : Datapath) : Undisturbed datapath datapath := ⟨rfl, rfl⟩

theorem trans (first : Undisturbed before middle) (second : Undisturbed middle after) :
    Undisturbed before after :=
  ⟨second.stats.trans first.stats, second.buffers.trans first.buffers⟩

theorem blindToBuffers : BlindToBuffers fun datapath : Datapath =>
    (datapath.stats.books, datapath.device.buffers) := ⟨fun _ _ _ _ _ => rfl⟩

/-- Buffers that are taken, mapped and given back leave both alone. -/
theorem of_blind (same : (after.stats.books, after.device.buffers) =
    (before.stats.books, before.device.buffers)) : Undisturbed before after :=
  ⟨congrArg Prod.fst same, congrArg Prod.snd same⟩

theorem takeBuffer (datapath : Datapath) (node : NodeId) (direction : Direction) :
    Undisturbed datapath (datapath.takeBuffer node direction).2 :=
  of_blind (blindToBuffers.takeBuffer datapath node direction)

theorem giveBackAll (mappings : List Mapping) (datapath : Datapath) :
    Undisturbed datapath (mappings.foldl Datapath.giveBack datapath) :=
  of_blind (blindToBuffers.giveBackAll mappings datapath)

theorem takeReceiveBuffers (node : NodeId) (number : Nat) (datapath : Datapath) :
    Undisturbed datapath (Datapath.takeReceiveBuffers node number datapath).2.2 :=
  of_blind (blindToBuffers.takeReceiveBuffers node number datapath)

theorem takeEvents (datapath : Datapath) (id : QueueId) :
    Undisturbed datapath (datapath.takeEvents id).2 := by
  unfold Datapath.takeEvents
  cases datapath.channel? id with
  | none => exact .refl datapath
  | some channel => exact ⟨rfl, rfl⟩

theorem takeEvent (datapath : Datapath) (id : QueueId) :
    Undisturbed datapath (datapath.takeEvent id).2 := by
  rcases datapath.takeEvent_cases id with result | ⟨_, _, _, _, result⟩
  · rw [result]
    exact .refl datapath
  · rw [result]
    exact ⟨rfl, rfl⟩

end Datapath.Undisturbed

/-! ## Gaps -/

namespace Link

/-- Descriptors in the rings of the device. -/
def inRings (link : Link) : Nat := Multiset.card link.datapath.device.buffers

/-- Packets of the statistics beyond those of the queues and those untracked. -/
def packetGap (link : Link) : Int :=
  let stats := link.datapath.stats
  ((stats.txPackets + stats.rxPackets : Nat) : Int) -
    (link.registry.packets + stats.untracked : Nat)

/-- Drops of the statistics beyond those of the queues. -/
def dropGap (link : Link) : Int := (link.datapath.stats.dropped : Int) - link.registry.drops

/-- Descriptors handed over beyond those counted as completed and those in the rings. -/
def ringGap (link : Link) : Int :=
  let stats := link.datapath.stats
  ((stats.rxPosted + stats.txPackets : Nat) : Int) -
    (stats.txCompletions + stats.rxPackets + stats.errors + link.inRings : Nat)

/-- The gaps are shifted by some amounts. -/
structure Shifts (packets drops rings : Int) (before after : Link) : Prop where
  packets : after.packetGap = before.packetGap + packets
  drops : after.dropGap = before.dropGap + drops
  rings : after.ringGap = before.ringGap + rings

namespace Shifts

variable {before middle after link : Link} {id : QueueId} {queue : Queue}

theorem refl (link : Link) : Shifts 0 0 0 link link :=
  ⟨(add_zero _).symm, (add_zero _).symm, (add_zero _).symm⟩

theorem trans {p d r p' d' r' : Int} (first : Shifts p d r before middle)
    (second : Shifts p' d' r' middle after) : Shifts (p + p') (d + d') (r + r') before after where
  packets := by rw [second.packets, first.packets, add_assoc]
  drops := by rw [second.drops, first.drops, add_assoc]
  rings := by rw [second.rings, first.rings, add_assoc]

/-- Steps that are not counted shift nothing. -/
theorem of_keeps (counts : Registry.Keeps Queue.counts before.registry after.registry)
    (same : before.datapath.Undisturbed after.datapath) : Shifts 0 0 0 before after := by
  obtain ⟨packets, drops⟩ := Registry.counts_of_keeps counts
  have rings : after.inRings = before.inRings := congrArg Multiset.card same.buffers
  have stats := same.stats
  simp only [LinkStats.books, LinkStats.mk.injEq] at stats
  constructor
  · simp only [packetGap, packets, stats, add_zero]
  · simp only [dropGap, drops, stats, add_zero]
  · simp only [ringGap, rings, stats, add_zero]

theorem of_undisturbed {datapath : Datapath} (same : link.datapath.Undisturbed datapath) :
    Shifts 0 0 0 link { link with datapath } :=
  of_keeps (.refl _ _) same

/-! ### Counting -/

theorem missed (link : Link) : Shifts (-1) 0 0 link link.missed := by
  constructor <;>
    simp only [packetGap, dropGap, ringGap, inRings, Link.missed, count, Datapath.count] <;> omega

theorem countReceived (link : Link) (bytes : Nat) :
    Shifts 1 0 (-1) link (link.countReceived bytes) := by
  constructor <;>
    simp only [packetGap, dropGap, ringGap, inRings, Link.countReceived, count,
      Datapath.count] <;> omega

theorem posted (link : Link) (number : Nat) : Shifts 0 0 number link (link.posted number) := by
  constructor <;>
    simp only [packetGap, dropGap, ringGap, inRings, Link.posted, count, Datapath.count] <;> omega

/-- A packet goes to a queue or is untracked. -/
theorem account (link : Link) (id : QueueId) (flow : FlowId) (bytes : Nat)
    (direction : Direction) (now : Nat) :
    Shifts (-1) 0 0 link (link.account id flow bytes direction now) := by
  rcases link.account_cases id flow bytes direction now with
    ⟨counting, after, counted, result⟩ | ⟨_, _, _, result⟩
  · rw [result]
    obtain ⟨packets, drops⟩ := Registry.counts_record counted
    constructor <;> simp only [packetGap, dropGap, ringGap, inRings, packets, drops] <;> omega
  · rw [result]
    exact missed link

/-- A drop goes to the queue that is there. -/
theorem dropPacket (found : link.registry.queues.get? id = some queue) (direction : Direction) :
    Shifts 0 0 0 link (link.dropPacket id direction) := by
  obtain ⟨packets, drops⟩ := Registry.counts_countDrop found direction
  constructor <;>
    simp only [packetGap, dropGap, ringGap, inRings, Link.dropPacket, count, Datapath.count,
      packets, drops] <;> omega

/-! ### Sending and receiving -/

/-- Descriptors that are refused go back. -/
theorem submit_refused {descriptors : List Descriptor} {error : ControlError}
    (refused : link.submit id descriptors = (.error error, after)) : Shifts 0 0 0 link after := by
  rcases link.submit_cases id descriptors with
    ⟨_, _, result⟩ | ⟨_, _, _, result⟩ | ⟨_, _, result⟩
  · obtain rfl := congrArg Prod.snd (refused.symm.trans result)
    exact refl _
  · obtain rfl := congrArg Prod.snd (refused.symm.trans result)
    have added := link.registry.keepsCounts 0 (.addWork id descriptors.length) rfl
    have finished : ∀ registry : Registry, Registry.Keeps Queue.counts registry
        (registry.finishWork id descriptors.length).2 :=
      fun registry => registry.keepsCounts 0 (.finishWork id descriptors.length) rfl
    exact of_keeps (added.trans (finished _)) (.giveBackAll _ _)
  · cases congrArg Prod.fst (refused.symm.trans result)

/-- Descriptors that are taken go to the ring. -/
theorem submit_taken {descriptors : List Descriptor}
    (taken : link.submit id descriptors = (.ok (), after)) :
    Shifts 0 0 (-descriptors.length) link after := by
  rcases link.submit_cases id descriptors with
    ⟨_, _, result⟩ | ⟨_, _, _, result⟩ | ⟨device, handed, result⟩
  · cases congrArg Prod.fst (taken.symm.trans result)
  · cases congrArg Prod.fst (taken.symm.trans result)
  · obtain rfl := congrArg Prod.snd (taken.symm.trans result)
    obtain rfl := Device.eq_of_submit handed
    have added := link.registry.keepsCounts 0 (.addWork id descriptors.length) rfl
    have counted : Shifts 0 0 0 link
        { link with registry := (link.registry.addWork id descriptors.length).2 } :=
      of_keeps added (.refl _)
    have ringed := congrArg Multiset.card
      (link.datapath.device.buffers_submit id descriptors)
    rw [Multiset.card_add, Descriptor.card_buffersOf] at ringed
    obtain ⟨packets, drops, rings⟩ := counted
    refine ⟨packets, drops, ?_⟩
    simp only [ringGap, inRings, handedOver] at rings ⊢
    omega

/-- A packet that is sent is counted twice, for the statistics and for its queue. -/
theorem sent (link : Link) (id : QueueId) (packet : Packet) (latency now : Nat) :
    Shifts 0 0 1 link (link.sent id packet latency now) := by
  have counted : Shifts 1 0 1 link (link.count fun stats =>
      { stats with
        txPackets := stats.txPackets + 1
        txBytes := stats.txBytes + packet.len }) := by
    constructor <;>
      simp only [packetGap, dropGap, ringGap, inRings, count, Datapath.count] <;> omega
  have accounted := counted.trans (account _ id packet.flow packet.len .tx now)
  have sampled : ∀ registry : Registry, Registry.Keeps Queue.counts registry
      (registry.recordLatency packet.flow latency).2 :=
    fun registry => registry.keepsCounts now (.recordLatency packet.flow latency) rfl
  have finished : Shifts 0 0 0 _ (link.sent id packet latency now) :=
    of_keeps (sampled _) ⟨rfl, rfl⟩
  exact accounted.trans finished

/-- Sending shifts nothing, whether the packet is sent, dropped or refused. -/
theorem send (link : Link) (packet : Packet) (latency now : Nat) :
    Shifts 0 0 0 link (link.send packet latency now).2 := by
  rcases link.send_cases packet latency now with
    ⟨_, result⟩ | ⟨id, queue, _, found, ⟨_, datapath, refused, result⟩ |
      ⟨mapping, datapath, held, ends⟩⟩
  · rw [result]
    exact refl link
  · rw [result]
    have same := Datapath.Undisturbed.takeBuffer link.datapath queue.node .tx
    rw [refused] at same
    have present : ({ link with datapath } : Link).registry.queues.get? id = some queue := found
    exact (of_undisturbed same).trans (dropPacket present .tx)
  · have same := Datapath.Undisturbed.takeBuffer link.datapath queue.node .tx
    rw [held] at same
    have inHand : Shifts 0 0 0 link { link with datapath } := of_undisturbed same
    rcases ends with ⟨_, after, refused, result⟩ | ⟨after, taken, result⟩
    · rw [result]
      have leads : Registry.Leads RegistryOp.byLink now link.registry _ :=
        leads_submit { link with datapath } id [packet.descriptor mapping]
      rw [refused] at leads
      obtain ⟨_, present⟩ := leads.present found
      exact (inHand.trans (submit_refused refused)).trans (dropPacket present .tx)
    · rw [result]
      exact (inHand.trans (submit_taken taken)).trans (sent after id packet latency now)

/-- Posting receive buffers shifts nothing. -/
theorem postReceive (link : Link) (id : QueueId) (number : Nat) :
    Shifts 0 0 0 link (link.postReceive id number).2 := by
  rcases link.postReceive_cases id number with
    ⟨_, result⟩ | ⟨queue, descriptors, refusal, datapath, _, taken, ends⟩
  · rw [result]
    exact refl link
  · have same := Datapath.Undisturbed.takeReceiveBuffers queue.node number link.datapath
    rw [taken] at same
    have inHand : Shifts 0 0 0 link { link with datapath } := of_undisturbed same
    rcases ends with ⟨_, _, result⟩ | ⟨_, after, refused, result⟩ | ⟨after, handed, result⟩
    · rw [result]
      exact inHand
    · rw [result]
      exact inHand.trans (submit_refused refused)
    · rw [result]
      have shifted := (inHand.trans (submit_taken handed)).trans
        (posted after descriptors.length)
      simpa only [zero_add, neg_add_cancel] using shifted

/-! ### Draining -/

theorem countCompletion (link : Link) :
    Shifts 0 0 (-1) link
      (link.count fun stats => { stats with txCompletions := stats.txCompletions + 1 }) := by
  constructor <;> simp only [packetGap, dropGap, ringGap, inRings, count, Datapath.count] <;> omega

theorem countError (link : Link) :
    Shifts 0 0 (-1) link (link.count fun stats => { stats with errors := stats.errors + 1 }) := by
  constructor <;> simp only [packetGap, dropGap, ringGap, inRings, count, Datapath.count] <;> omega

/-- A completion is counted unless it was dropped. -/
theorem finish (found : link.registry.queues.get? id = some queue) (now : Nat)
    (completion : Completion) :
    Shifts 0 0 (if completion.status = .dropped then 0 else -1) link
      (Link.finish id now link completion) := by
  unfold Link.finish finishOne
  cases completion.status with
  | ok =>
      cases completion.descriptor.direction with
      | rx =>
          simp only []
          cases completion.flow <|> completion.descriptor.flow with
          | none => exact (countReceived link completion.len).trans (missed _)
          | some flow =>
              exact (countReceived link completion.len).trans
                (account _ id flow completion.len .rx now)
      | tx => exact countCompletion link
  | error =>
      have raised := link.registry.keepsCounts now
        (.countError id completion.descriptor.direction) rfl
      have first : Shifts 0 0 0 link { link with
          registry := (link.registry.countError id completion.descriptor.direction).2 } :=
        of_keeps raised (.refl _)
      exact first.trans (countError _)
  | dropped => exact dropPacket found completion.descriptor.direction

theorem finishAll (found : link.registry.queues.get? id = some queue) (now : Nat)
    (completions : List Completion) :
    Shifts 0 0 (completions.countP (·.status == .dropped) - completions.length) link
      (completions.foldl (Link.finish id now) link) := by
  induction completions generalizing link queue with
  | nil => exact refl link
  | cons completion rest ih =>
      have leads : Registry.Leads RegistryOp.byLink now link.registry _ :=
        leads_finishOne id ({}, link) completion
      obtain ⟨_, present⟩ := leads.present found
      have whole := (finish found now completion).trans (ih present)
      have amount : (if completion.status = .dropped then (0 : Int) else -1) +
          (rest.countP (·.status == .dropped) - rest.length) =
          (completion :: rest).countP (·.status == .dropped) - (completion :: rest).length := by
        rw [List.countP_cons, List.length_cons]
        by_cases dropped : completion.status = .dropped
        · simp only [dropped, if_true, beq_self_eq_true]
          omega
        · have other : (completion.status == .dropped) = false := beq_eq_false_iff_ne.2 dropped
          simp only [dropped, other, if_false, Bool.false_eq_true]
          omega
      rw [amount] at whole
      exact whole

/-- Work that is taken off, or was not pending, shifts nothing. -/
theorem settle (link : Link) (id : QueueId) (completed : Nat) :
    Shifts 0 0 0 link (link.settle id completed) := by
  have finished : Registry.Keeps Queue.counts link.registry
      (link.registry.finishWork id completed).2 :=
    link.registry.keepsCounts 0 (.finishWork id completed) rfl
  unfold Link.settle
  cases result : link.registry.finishWork id completed with
  | mk outcome registry =>
      rw [result] at finished
      cases outcome <;> exact of_keeps finished ⟨rfl, rfl⟩

/-- Completions that the device hands out leave their ring. -/
theorem poll (link : Link) (id : QueueId) (size : Nat) :
    Shifts 0 0 (link.datapath.device.poll id size).1.length link
      { link with datapath := { link.datapath with
        device := (link.datapath.device.poll id size).2 } } := by
  have counted := congrArg Multiset.card (link.datapath.device.poll_eq id size).2.2.1
  rw [Multiset.card_add, Completion.card_buffersOf] at counted
  constructor <;> simp only [packetGap, dropGap, ringGap, inRings] <;> omega

/-- Completions that are collected leave the ring. -/
theorem cleared (link : Link) (id : QueueId) (budget : Option Nat) :
    Shifts 0 0 (link.collected id budget).length link (link.cleared id budget) := by
  let heard : Link := { link with datapath := (link.datapath.takeEvents id).2 }
  let size := budget.getD (link.datapath.device.ring id).completed.length
  have heardEvents : Shifts 0 0 0 link heard := of_undisturbed (.takeEvents link.datapath id)
  have polled := poll heard id size
  have completions : (heard.datapath.device.poll id size).1 = link.collected id budget :=
    link.poll_takeEvents id size
  rw [completions] at polled
  have returned := polled.trans
    (of_undisturbed (.giveBackAll ((link.collected id budget).map Completion.mapping) _))
  have whole := (heardEvents.trans returned).trans
    (settle _ id (link.collected id budget).length)
  simp only [zero_add, add_zero] at whole
  exact whole

/-- A drain counts the completions that it collects, all but those that were dropped. -/
theorem drain (link : Link) (id : QueueId) (budget : Option Nat) (now : Nat)
    (found : link.registry.queues.get? id = some queue) :
    Shifts 0 0 ((link.collected id budget).countP (·.status == .dropped)) link
      (link.drain id budget now).2 := by
  obtain ⟨report, result⟩ := drain_eq found budget now
  rw [result]
  have leads : Registry.Leads RegistryOp.byLink now link.registry
      (link.cleared id budget).registry := leads_settle { link with datapath := _ } id _
  obtain ⟨_, present⟩ := leads.present found
  have whole := (cleared link id budget).trans
    (finishAll present now (link.collected id budget))
  simp only [zero_add, add_sub_cancel] at whole
  exact whole

end Shifts

end Link

end FlowSteer
