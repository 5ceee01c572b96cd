import FlowSteer.Proofs.FlowOwnership
import FlowSteer.Proofs.Link.Drains

/-!
# Packets of flows that another queue owns

A packet that is counted on a queue which does not own its flow is referred to the owner, and a
drain credits it there. The queue is asked for its status before the directory is asked for the
owner, so this depends on the status of the queue:

* `Attributes`: packets are referred, and completions credited to the owner;
* `Neglects`: packets are refused for the status of the queue, and completions are untracked;
* `System.attribution_run`: after every run, a queue in service attributes the packets of a flow
  that another queue owns, and a queue out of service neglects them.
-/

namespace FlowSteer

/-- Is the completion a transferred receive buffer with a payload of a flow. -/
structure Completion.Receives (completion : Completion) (flow : FlowId) : Prop where
  transferred : completion.status = .ok
  received : completion.descriptor.direction = .rx
  named : (completion.flow <|> completion.descriptor.flow) = some flow

namespace Link

/-- A received packet of a flow is counted in the table and in the counters of its owner, nothing
else in the registry changes, and the packet is not untracked. -/
structure Credits (owner : QueueId) (flow : FlowId) (bytes now : Nat) (before after : Link) :
    Prop where
  counted : ∃ queue, before.registry.queues.get? owner = some queue ∧
    queue.flows.contains flow = true ∧
    after.registry = before.registry.putQueue owner (queue.addPacket flow bytes .rx now)
  tracked : after.datapath.stats.untracked = before.datapath.stats.untracked

/-- A received packet is untracked, and the registry stays as it is. -/
structure Misses (before after : Link) : Prop where
  uncounted : after.registry = before.registry
  untracked : after.datapath.stats.untracked = before.datapath.stats.untracked + 1

/-- A queue refers the packets of a flow to its owner, and a drain of the queue credits each
received packet of the flow when its turn comes. -/
structure Attributes (link : Link) (id : QueueId) (flow : FlowId) (owner : QueueId) : Prop where
  referred : ∀ bytes direction now, link.registry.record id flow bytes direction now =
    (.error (.ownedElsewhere flow owner), link.registry)
  credited : ∀ {budget earlier completion later} (now : Nat),
    link.collected id budget = earlier ++ completion :: later → completion.Receives flow →
    Credits owner flow completion.len now (link.accounted id budget now earlier)
      (link.accounted id budget now (earlier ++ [completion]))

/-- A queue refuses the packets of a flow for its own status, and a drain of the queue misses each
received packet of the flow when its turn comes. -/
structure Neglects (link : Link) (id : QueueId) (flow : FlowId) : Prop where
  refused : ∀ bytes direction now, link.registry.record id flow bytes direction now =
    (.error (.outOfService id), link.registry)
  missed : ∀ {budget earlier completion later} (now : Nat),
    link.collected id budget = earlier ++ completion :: later → completion.Receives flow →
    Misses (link.accounted id budget now earlier)
      (link.accounted id budget now (earlier ++ [completion]))

/-! ## What a drain keeps on its way -/

open Registry (Leads)
open RegistryOp (byLink)

variable {link : Link} {id owner : QueueId} {queue : Queue} {flow : FlowId}

theorem leads_cleared (link : Link) (id : QueueId) (budget : Option Nat) (now : Nat) :
    Leads byLink now link.registry (link.cleared id budget).registry :=
  leads_settle { link with datapath := _ } id (link.collected id budget).length

theorem leads_accounted (link : Link) (id : QueueId) (budget : Option Nat) (now : Nat)
    (completions : List Completion) :
    Leads byLink now link.registry (link.accounted id budget now completions).registry := by
  have finished : Leads byLink now (link.cleared id budget).registry _ :=
    leads_finishAll id completions ({}, link.cleared id budget)
  rw [foldl_finishOne_snd] at finished
  exact (link.leads_cleared id budget now).trans finished

/-- The packet path takes no flow from its owner. -/
theorem owner_of_byLink {registry : Registry} {now : Nat} (op : RegistryOp)
    (allowed : op.byLink = true) (owned : registry.ownerOf flow = some owner) :
    (op.apply now registry).ownerOf flow = some owner := by
  cases op with
  | record id other bytes direction =>
      show (registry.record id other bytes direction now).2.ownerOf flow = some owner
      rcases registry.record_cases id other bytes direction now with
        ⟨_, result⟩ | ⟨_, _, _, result⟩ | ⟨_, _, _, _, _, owners, result⟩
      · rw [result]
        exact owned
      · rw [result]
        exact owned
      · rw [result]
        show (registry.directory.insert other id).get? flow = some owner
        rw [IdMap.get?_insert]
        split
        · rename_i same
          rw [← same, owned] at owners
          exact (owners.resolve_left (Option.some_ne_none owner)).symm
        · exact owned
  | recordLatency other latency =>
      show (registry.recordLatency other latency).2.ownerOf flow = some owner
      rcases registry.recordLatency_cases other latency with
        ⟨_, result⟩ | ⟨_, _, _, _, _, result⟩ <;> rw [result] <;> exact owned
  | countError id direction =>
      show (registry.countError id direction).2.ownerOf flow = some owner
      rw [Registry.countError, Registry.updateQueue_snd]
      exact owned
  | countDrop id direction =>
      show (registry.countDrop id direction).2.ownerOf flow = some owner
      rw [Registry.countDrop, Registry.updateQueue_snd]
      exact owned
  | addWork id work =>
      show (registry.addWork id work).2.ownerOf flow = some owner
      rw [Registry.addWork, Registry.updateQueue_snd]
      exact owned
  | finishWork id work =>
      show (registry.finishWork id work).2.ownerOf flow = some owner
      rw [Registry.finishWork_snd]
      exact owned
  | _ => cases allowed

/-- What decides where a packet is counted: tables and directory agree, the queue has its status,
and the flow its owner. -/
structure Settled (registry : Registry) (id owner : QueueId) (flow : FlowId) (failed : Bool) :
    Prop where
  own : registry.Ownership
  found : ∃ queue, registry.queues.get? id = some queue ∧ queue.isFailed = failed
  owned : registry.ownerOf flow = some owner

/-- None of it changes on the packet path. -/
theorem Settled.of_leads {before after : Registry} {failed : Bool} {now : Nat}
    (settled : Settled before id owner flow failed) (leads : Leads byLink now before after) :
    Settled after id owner flow failed where
  own := leads.induct (fun _ op _ own => own.registryOp now op) settled.own
  found := by
    obtain ⟨queue, found, failing⟩ := settled.found
    have statuses : Registry.Keeps Queue.status before after := leads.keeps fun _ op allowed =>
      Registry.keeps_byLink (fun _ _ _ => rfl) (fun _ _ => rfl) op allowed
    obtain ⟨new, present, same⟩ := statuses.of_before found
    refine ⟨new, present, ?_⟩
    rw [← failing, Queue.isFailed, Queue.isFailed, same]
  owned := by
    have kept : ∀ (registry : Registry) op, byLink op = true →
        registry.ownerOf flow = some owner → (op.apply now registry).ownerOf flow = some owner :=
      fun _ op allowed owned => owner_of_byLink op allowed owned
    exact leads.induct kept settled.owned

/-! ## One packet -/

section Packet

variable {registry : Registry} {bytes now : Nat} {direction : Direction}

theorem Settled.absent {failed : Bool} (settled : Settled registry id owner flow failed)
    (other : owner ≠ id) (found : registry.queues.get? id = some queue) :
    queue.flows.contains flow = false := by
  rw [← Bool.not_eq_true, settled.own.held_iff found, settled.owned]
  exact fun same => other (Option.some.inj same)

theorem Settled.referred (settled : Settled registry id owner flow false) (other : owner ≠ id) :
    registry.record id flow bytes direction now =
      (.error (.ownedElsewhere flow owner), registry) := by
  obtain ⟨queue, found, inService⟩ := settled.found
  exact Registry.record_of_foreign found (settled.absent other found) inService settled.owned other

theorem Settled.refused (settled : Settled registry id owner flow true) (other : owner ≠ id) :
    registry.record id flow bytes direction now = (.error (.outOfService id), registry) := by
  obtain ⟨queue, found, failed⟩ := settled.found
  exact Registry.record_of_failed found (settled.absent other found) failed

variable {completion : Completion}

theorem Settled.credits (settled : Settled link.registry id owner flow false) (other : owner ≠ id)
    (receives : completion.Receives flow) :
    Credits owner flow completion.len now link (finish id now link completion) := by
  obtain ⟨queue, entry, found, kept⟩ := settled.own.entry_of_owner settled.owned
  have held : queue.flows.contains flow = true := FlowTable.contains_iff.2 ⟨entry, kept⟩
  have received : Settled (link.countReceived completion.len).registry id owner flow false :=
    settled
  rw [finish_of_received receives.transferred receives.received receives.named,
    account_of_referred (received.referred other) (Registry.record_of_held found held)]
  exact ⟨⟨queue, found, held, rfl⟩, rfl⟩

theorem Settled.misses (settled : Settled link.registry id owner flow true) (other : owner ≠ id)
    (receives : completion.Receives flow) :
    Misses link (finish id now link completion) := by
  have received : Settled (link.countReceived completion.len).registry id owner flow true :=
    settled
  rw [finish_of_received receives.transferred receives.received receives.named,
    account_of_refused (received.refused other) (fun _ _ same => by cases same)]
  exact ⟨rfl, rfl⟩

end Packet

/-! ## The whole drain -/

theorem Settled.attributes (settled : Settled link.registry id owner flow false)
    (other : owner ≠ id) : link.Attributes id flow owner where
  referred := fun _ _ _ => settled.referred other
  credited := by
    intro budget earlier completion later now _ receives
    rw [accounted_append]
    have reached := settled.of_leads (link.leads_accounted id budget now earlier)
    exact reached.credits other receives

theorem Settled.neglects (settled : Settled link.registry id owner flow true)
    (other : owner ≠ id) : link.Neglects id flow where
  refused := fun _ _ _ => settled.refused other
  missed := by
    intro budget earlier completion later now _ receives
    rw [accounted_append]
    have reached := settled.of_leads (link.leads_accounted id budget now earlier)
    exact reached.misses other receives

/-- A queue does not refer the packets that it refuses. -/
theorem Neglects.not_attributes (neglects : link.Neglects id flow) :
    ¬link.Attributes id flow owner := by
  intro attributes
  have referred := attributes.referred 0 .rx 0
  rw [neglects.refused] at referred
  cases congrArg Prod.fst referred

end Link

/-! ## Runs -/

namespace System

/-- After every run, a queue attributes the packets of a flow that another queue owns exactly when
it is in service; out of service it neglects them. A drain accounts for what it collects, and
nothing else. -/
theorem attribution_run (blueprint : Blueprint) (operations : List Operation)
    {id owner : QueueId} {queue : Queue} {flow : FlowId}
    (found : ((fresh blueprint).run operations).registry.queues.get? id = some queue)
    (owned : ((fresh blueprint).run operations).registry.ownerOf flow = some owner)
    (other : owner ≠ id) :
    (((fresh blueprint).run operations).link.Attributes id flow owner ↔
        queue.isFailed = false) ∧
      (queue.isFailed = true → ((fresh blueprint).run operations).link.Neglects id flow) ∧
      ∀ budget now, ∃ report, ((fresh blueprint).run operations).link.drain id budget now =
        (.ok report, ((fresh blueprint).run operations).link.accounted id budget now
          (((fresh blueprint).run operations).link.collected id budget)) := by
  have settled : Link.Settled ((fresh blueprint).run operations).link.registry id owner flow
      queue.isFailed := ⟨ownership_run blueprint operations, ⟨queue, found, rfl⟩, owned⟩
  refine ⟨?_, ?_, fun budget now => Link.drain_eq found budget now⟩
  · constructor
    · intro attributes
      cases failed : queue.isFailed with
      | false => rfl
      | true =>
          rw [failed] at settled
          exact absurd attributes (settled.neglects other).not_attributes
    · intro inService
      rw [inService] at settled
      exact settled.attributes other
  · intro failed
    rw [failed] at settled
    exact settled.neglects other

/-- A queue whose flows were moved by failover, drained of a packet that arrives late. -/
theorem attribution_run_of_recovering :
    let system := (fresh {
        capacity := 4, maxFlows := 8, buffersPerNode := 4, ringCapacity := 3 }).run
      [.registry (.register 0 0), .registry (.register 1 0), .registry (.record 1 5 60 .rx),
        .link (.postReceive 1 1), .failover (.handleFailure 1), .device (.receive 1 5 40)]
    system.registry.ownerOf 5 = some 0 ∧ system.link.Attributes 1 5 0 := by
  intro system
  have owned : system.registry.ownerOf 5 = some 0 := by decide
  have inService : ∃ queue, system.registry.queues.get? 1 = some queue ∧
      queue.isFailed = false := ⟨_, rfl, rfl⟩
  obtain ⟨queue, found, serving⟩ := inService
  exact ⟨owned, (attribution_run _ _ found owned (by decide)).1.2 serving⟩

/-- A queue whose remap was suppressed at the cap refuses the packet of a flow that another queue
owns, and a drain of the queue leaves the packet untracked. -/
theorem neglect_of_suppressed_remap :
    let system := (fresh {
        capacity := 4, maxFlows := 8, buffersPerNode := 4, ringCapacity := 3
        failover := { maxFailoverCount := 0 } }).run
      [.registry (.register 0 0), .registry (.register 1 0), .registry (.record 0 5 60 .rx),
        .link (.postReceive 1 1), .device (.receive 1 5 40), .failover (.handleFailure 1)]
    system.registry.ownerOf 5 = some 0 ∧
      system.registry.record 1 5 60 .rx 0 = (.error (.outOfService 1), system.registry) ∧
      (system.link.drain 1 none 0).2.datapath.stats.untracked = 1 ∧
      ¬system.link.Attributes 1 5 0 := by
  intro system
  have refused : system.registry.record 1 5 60 .rx 0 =
      (.error (.outOfService 1), system.registry) := by decide
  refine ⟨by decide, refused, by decide, ?_⟩
  intro attributes
  have referred := attributes.referred 60 .rx 0
  cases congrArg Prod.fst (refused.symm.trans referred)

end System

end FlowSteer
