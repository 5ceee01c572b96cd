import FlowSteer.Proofs.Failover.Remaps
import FlowSteer.Proofs.Link.Accounts
import FlowSteer.Proofs.Link.Outcomes
import FlowSteer.Proofs.Registry.Views
import FlowSteer.Proofs.Runs

/-!
# What a system does to its registry

Failover, the packet path and the rates change the registry only through operations on it, one
after another. `Registry.Leads kind now` relates two registries when a sequence of operations of
some kind leads from one to the other:

* `FailoverOp.leads`: failover sets statuses and moves flows, and does nothing else;
* `LinkOp.leads`: the packet path counts traffic and work, and does nothing else;
* `System.leads_throughFailover`, `System.leads_step`: every operation of the system is such a
  sequence.

What all operations on the registry keep is then kept by all operations of the system.
-/

namespace FlowSteer

namespace RegistryOp

/-- Is the operation one that failover makes use of. -/
def byFailover : RegistryOp → Bool
  | setStatus .. | clearErrors .. | updateStatus .. | moveFlow .. | moveAll .. => true
  | _ => false

/-- Is the operation one that the packet path makes use of. -/
def byLink : RegistryOp → Bool
  | record .. | recordLatency .. | countError .. | countDrop .. | addWork .. | finishWork .. => true
  | _ => false

end RegistryOp

namespace Registry

/-- A sequence of operations of some kind, at a time of the clock, leads from one registry to the
other. -/
def Leads (kind : RegistryOp → Bool) (now : Nat) (before after : Registry) : Prop :=
  ∃ ops : List RegistryOp, (∀ op ∈ ops, kind op = true) ∧
    after = ops.foldl (RegistryOp.apply now) before

variable {kind : RegistryOp → Bool} {now : Nat} {registry before middle after : Registry}

namespace Leads

theorem refl (kind : RegistryOp → Bool) (now : Nat) (registry : Registry) :
    Leads kind now registry registry :=
  ⟨[], fun _ member => absurd member List.not_mem_nil, rfl⟩

theorem trans (first : Leads kind now before middle) (second : Leads kind now middle after) :
    Leads kind now before after := by
  obtain ⟨firstOps, firstKind, rfl⟩ := first
  obtain ⟨secondOps, secondKind, rfl⟩ := second
  refine ⟨firstOps ++ secondOps, ?_, (List.foldl_append ..).symm⟩
  intro op member
  exact (List.mem_append.1 member).elim (firstKind op) (secondKind op)

theorem single (op : RegistryOp) (allowed : kind op = true) :
    Leads kind now registry (op.apply now registry) := by
  refine ⟨[op], ?_, rfl⟩
  intro other member
  rw [List.mem_singleton.1 member]
  exact allowed

theorem step (first : Leads kind now before middle) (op : RegistryOp) (allowed : kind op = true) :
    Leads kind now before (op.apply now middle) :=
  first.trans (single op allowed)

theorem mono {wider : RegistryOp → Bool} (weaker : ∀ op, kind op = true → wider op = true)
    (leads : Leads kind now before after) : Leads wider now before after := by
  obtain ⟨ops, allowed, result⟩ := leads
  exact ⟨ops, fun op member => weaker op (allowed op member), result⟩

/-- What each operation of the kind keeps is kept. -/
theorem induct {holds : Registry → Prop}
    (kept : ∀ registry op, kind op = true → holds registry → holds (op.apply now registry))
    (leads : Leads kind now before after) (start : holds before) : holds after := by
  obtain ⟨ops, allowed, rfl⟩ := leads
  induction ops generalizing before with
  | nil => exact start
  | cons op rest ih =>
      rw [List.foldl_cons]
      apply ih
      · exact kept before op (allowed op List.mem_cons_self) start
      · exact fun later member => allowed later (List.mem_cons_of_mem _ member)

/-- What the operations of the kind leave alone is left alone. -/
theorem keeps {β : Type} {view : Queue → β}
    (kept : ∀ registry op, kind op = true → Keeps view registry (op.apply now registry))
    (leads : Leads kind now before after) : Keeps view before after := by
  have start : Keeps view before before := .refl view before
  apply leads.induct _ start
  exact fun registry op allowed reached => reached.trans (kept registry op allowed)

end Leads

/-- Failover leaves alone whatever does not show status, counters or flows. -/
theorem keeps_byFailover {β : Type} {view : Queue → β} (traffic : Queue.BlindToTraffic view)
    (health : Queue.BlindToHealth view) (op : RegistryOp) (allowed : op.byFailover = true) :
    Keeps view registry (op.apply now registry) := by
  cases op with
  | setStatus id status => exact keeps_setStatus health id status
  | clearErrors id status => exact keeps_clearErrors health id status
  | updateStatus id choose => exact keeps_updateStatus health id choose
  | moveFlow flow source target => exact keeps_moveFlow traffic.flows flow source target
  | moveAll source target => exact keeps_moveAll traffic.flows source target
  | _ => cases allowed

/-- The packet path leaves alone whatever does not show pending work, counters or flows. -/
theorem keeps_byLink {β : Type} {view : Queue → β} (traffic : Queue.BlindToTraffic view)
    (work : ∀ queue pending, view { queue with pending } = view queue) (op : RegistryOp)
    (allowed : op.byLink = true) : Keeps view registry (op.apply now registry) := by
  cases op with
  | record id flow bytes direction => exact keeps_record traffic id flow bytes direction now
  | recordLatency flow latency => exact keeps_recordLatency traffic.flows flow latency
  | countError id direction => exact keeps_countError traffic id direction
  | countDrop id direction => exact keeps_countDrop traffic id direction
  | addWork id added =>
      show Keeps view registry (registry.addWork id added).2
      rw [addWork, updateQueue_snd]
      exact keeps_adjust (fun queue => work queue _) id
  | finishWork id finished =>
      show Keeps view registry (registry.finishWork id finished).2
      rw [finishWork_snd]
      exact keeps_adjust (fun queue => work queue _) id
  | _ => cases allowed

end Registry

open Registry (Leads)
open RegistryOp (byFailover byLink)

variable {now : Nat}

/-! ## Failover -/

namespace Failover

variable {failover : Failover}

theorem leads_clearErrors (failover : Failover) (id : QueueId) (status : QueueStatus) :
    Leads byFailover now failover.registry (failover.clearErrors id status).registry :=
  .single (.clearErrors id status) rfl

theorem leads_noteFailure (failover : Failover) (id : QueueId) (time : Nat)
    (status : QueueStatus) :
    Leads byFailover now failover.registry (failover.noteFailure id time status).registry :=
  leads_clearErrors (failover.putOutage id (failover.afterFailure id time)) id status

theorem leads_noteManual (failover : Failover) (id : QueueId) (time : Nat) :
    Leads byFailover now failover.registry (failover.noteManual id time).registry :=
  .single (.setStatus id .failed) rfl

theorem leads_movedAll (failover : Failover) (source target : QueueId) (moved : Nat)
    (cause : RemapCause) (time : Nat) :
    Leads byFailover now failover.registry
      (failover.movedAll source target moved cause time).registry :=
  (Leads.single (.moveAll source target) rfl).trans
    (leads_clearErrors { failover with registry := _ } source .recovering)

theorem leads_handleFailure (failover : Failover) (id : QueueId) (time : Nat) :
    Leads byFailover now failover.registry (failover.handleFailure id time).2.registry := by
  have noted : ∀ status, Leads byFailover now failover.registry
      (failover.noteFailure id time status).registry := leads_noteFailure failover id time
  rcases failover.handleFailure_cases id time with
    ⟨_, result⟩ | ⟨_, _, ⟨_, result⟩ | ⟨_, _, result⟩ | ⟨_, _, _, result⟩ |
      ⟨_, _, target, moved, _, _, result⟩⟩
  · rw [result]
    exact .refl _ now failover.registry
  · rw [result]
    exact noted .recovering
  · rw [result]
    exact noted .failed
  · rw [result]
    exact noted .failed
  · rw [result]
    exact (noted .failed).trans (leads_movedAll _ id target moved .automatic time)

theorem leads_remapByHand (failover : Failover) (source : QueueId) (target? : Option QueueId)
    (time : Nat) :
    Leads byFailover now failover.registry
      (failover.remapByHand source target? time).2.registry := by
  have noted : Leads byFailover now failover.registry
      (failover.noteManual source time).registry := leads_noteManual failover source time
  rcases failover.remapByHand_cases source target? time with
    ⟨_, _, result⟩ | ⟨_, _, result⟩ | ⟨_, target, moved, _, _, result⟩
  · rw [result]
    exact .refl _ now failover.registry
  · rw [result]
    exact noted
  · rw [result]
    exact noted.trans (leads_movedAll _ source target moved .manual time)

theorem leads_recover (failover : Failover) (time : Nat) :
    Leads byFailover now failover.registry (failover.recover time).2.registry := by
  rw [recover_registry]
  generalize (failover.recover time).1 = ids
  generalize failover.registry = registry
  induction ids generalizing registry with
  | nil => exact .refl _ now registry
  | cons id rest ih => exact (Leads.single (.clearErrors id .active) rfl).trans (ih _)

theorem leads_placeFlow (failover : Failover) (flow : FlowId) (target : QueueId) :
    Leads byFailover now failover.registry (failover.placeFlow flow target).2.registry := by
  rcases failover.placeFlow_cases flow target with ⟨_, result⟩ | result | ⟨source, _, result⟩
  · rw [result]
    exact .refl _ now failover.registry
  · rw [result]
    exact .refl _ now failover.registry
  · rw [result]
    exact .single (.moveFlow flow source target) rfl

theorem leads_switchStatus (failover : Failover) (id : QueueId) (expected new : QueueStatus) :
    Leads byFailover now failover.registry
      (failover.switchStatus id expected new).2.registry := by
  rw [switchStatus_snd]
  exact .single (.updateStatus id _) rfl

theorem leads_checkQueue (settings : HealthSettings) (time : Nat) (state : CheckReport × Failover)
    (view : QueueView) :
    Leads byFailover now state.2.registry (checkQueue settings time state view).2.registry := by
  rw [checkQueue_snd]
  split
  · exact leads_handleFailure state.2 view.queue time
  · exact leads_switchStatus state.2 view.queue .active .degraded
  · exact leads_switchStatus state.2 view.queue .degraded .active

theorem leads_checkHealth (failover : Failover) (settings : HealthSettings)
    (time recoveryTime : Nat) :
    Leads byFailover now failover.registry
      (failover.checkHealth settings time recoveryTime).2.registry := by
  let reached : Failover → Prop := fun later =>
    Leads byFailover now failover.registry later.registry
  have start : reached failover := .refl _ now failover.registry
  apply checkHealth_induct start
  · intro state view leads
    exact leads.trans (leads_checkQueue settings time state view)
  · intro later leads
    exact leads.trans (leads_recover later recoveryTime)

end Failover

/-- Failover sets statuses and moves flows. -/
theorem FailoverOp.leads (failover : Failover) (op : FailoverOp) :
    Leads byFailover now failover.registry (op.apply now failover).registry := by
  cases op with
  | setSettings settings => exact .refl _ now failover.registry
  | handleFailure id => exact failover.leads_handleFailure id now
  | remapByHand source target? => exact failover.leads_remapByHand source target? now
  | recover time => exact failover.leads_recover time
  | placeFlow flow target => exact failover.leads_placeFlow flow target
  | checkHealth settings time => exact failover.leads_checkHealth settings now time

/-! ## The packet path -/

namespace Link

variable {link : Link}

theorem leads_account (link : Link) (id : QueueId) (flow : FlowId) (bytes : Nat)
    (direction : Direction) :
    Leads byLink now link.registry (link.account id flow bytes direction now).registry := by
  obtain ⟨counting, result⟩ := link.registry_account id flow bytes direction now
  rw [result]
  exact .single (.record counting flow bytes direction) rfl

theorem leads_dropPacket (link : Link) (id : QueueId) (direction : Direction) :
    Leads byLink now link.registry (link.dropPacket id direction).registry :=
  .single (.countDrop id direction) rfl

theorem leads_submit (link : Link) (id : QueueId) (descriptors : List Descriptor) :
    Leads byLink now link.registry (link.submit id descriptors).2.registry := by
  have added : Leads byLink now link.registry
      (link.registry.addWork id descriptors.length).2 := .single (.addWork id _) rfl
  rcases link.submit_cases id descriptors with
    ⟨_, _, result⟩ | ⟨_, _, _, result⟩ | ⟨_, _, result⟩
  · rw [result]
    exact .refl _ now link.registry
  · rw [result]
    exact added.step (.finishWork id descriptors.length) rfl
  · rw [result]
    exact added

theorem leads_sent (link : Link) (id : QueueId) (packet : Packet) (latency : Nat) :
    Leads byLink now link.registry (link.sent id packet latency now).registry :=
  (leads_account (link.count _) id packet.flow packet.len .tx).step
    (.recordLatency packet.flow latency) rfl

theorem leads_send (link : Link) (packet : Packet) (latency : Nat) :
    Leads byLink now link.registry (link.send packet latency now).2.registry := by
  rcases link.send_cases packet latency now with
    ⟨_, result⟩ | ⟨id, queue, _, _, ⟨_, datapath, _, result⟩ | ⟨mapping, datapath, _, ends⟩⟩
  · rw [result]
    exact .refl _ now link.registry
  · rw [result]
    exact leads_dropPacket { link with datapath } id .tx
  · have submitted : Leads byLink now link.registry _ :=
      leads_submit { link with datapath } id [packet.descriptor mapping]
    rcases ends with ⟨_, after, refused, result⟩ | ⟨after, taken, result⟩
    · rw [refused] at submitted
      rw [result]
      exact submitted.trans (leads_dropPacket after id .tx)
    · rw [taken] at submitted
      rw [result]
      exact submitted.trans (leads_sent after id packet latency)

theorem leads_postReceive (link : Link) (id : QueueId) (number : Nat) :
    Leads byLink now link.registry (link.postReceive id number).2.registry := by
  rcases link.postReceive_cases id number with
    ⟨_, result⟩ | ⟨queue, descriptors, _, datapath, _, _, ends⟩
  · rw [result]
    exact .refl _ now link.registry
  · have submitted : Leads byLink now link.registry _ :=
      leads_submit { link with datapath } id descriptors
    rcases ends with ⟨_, _, result⟩ | ⟨_, after, refused, result⟩ | ⟨after, taken, result⟩
    · rw [result]
      exact .refl _ now link.registry
    · rw [refused] at submitted
      rw [result]
      exact submitted
    · rw [taken] at submitted
      rw [result]
      exact submitted

theorem leads_finishOne (id : QueueId) (state : DrainReport × Link) (completion : Completion) :
    Leads byLink now state.2.registry (finishOne id now state completion).2.registry := by
  unfold finishOne
  cases completion.status with
  | ok =>
      cases completion.descriptor.direction with
      | rx =>
          simp only []
          cases completion.flow <|> completion.descriptor.flow with
          | none => exact .refl _ now state.2.registry
          | some flow => exact leads_account (state.2.count _) id flow completion.len .rx
      | tx => exact .refl _ now state.2.registry
  | error => exact .single (.countError id completion.descriptor.direction) rfl
  | dropped => exact leads_dropPacket state.2 id completion.descriptor.direction

theorem leads_finishAll (id : QueueId) (completions : List Completion)
    (state : DrainReport × Link) :
    Leads byLink now state.2.registry
      (completions.foldl (finishOne id now) state).2.registry := by
  induction completions generalizing state with
  | nil => exact .refl _ now state.2.registry
  | cons completion rest ih => exact (leads_finishOne id state completion).trans (ih _)

theorem leads_settle (link : Link) (id : QueueId) (completed : Nat) :
    Leads byLink now link.registry (link.settle id completed).registry := by
  have finished : Leads byLink now link.registry (link.registry.finishWork id completed).2 :=
    .single (.finishWork id completed) rfl
  unfold settle
  cases work : link.registry.finishWork id completed with
  | mk outcome registry =>
      rw [work] at finished
      cases outcome <;> exact finished

theorem leads_collect (link : Link) (id : QueueId) (events : Nat)
    (completions : List Completion) :
    Leads byLink now link.registry (link.collect id events completions now).2.registry := by
  unfold collect
  split
  · exact .refl _ now link.registry
  · let returned : Link := { link with
      datapath := (completions.map Completion.mapping).foldl Datapath.giveBack link.datapath }
    have settled : Leads byLink now link.registry
        (returned.settle id completions.length).registry :=
      leads_settle returned id completions.length
    exact settled.trans (leads_finishAll id completions (_, _))

theorem leads_drain (link : Link) (id : QueueId) (budget : Option Nat) :
    Leads byLink now link.registry (link.drain id budget now).2.registry := by
  unfold drain
  cases link.registry.queue id with
  | error error => exact .refl _ now link.registry
  | ok queue => exact leads_collect { link with datapath := _ } id _ _

theorem leads_work (link : Link) (id : QueueId) (budget : Nat) :
    Leads byLink now link.registry (link.work id budget now).registry := by
  rcases link.work_cases id budget now with result | ⟨datapath, limit, _, result⟩
  · rw [result]
    exact leads_drain link id none
  · rw [result]
    have batches : Leads byLink now link.registry
        (drainBatches id budget now limit { link with datapath }).registry := by
      apply drainBatches_induct (motive := fun later =>
        Leads byLink now link.registry later.registry)
      · exact fun later leads => leads.trans (leads_drain later id (some budget))
      · exact .refl _ now link.registry
    exact batches.trans (leads_drain _ id none)

end Link

/-- The packet path counts traffic and work. -/
theorem LinkOp.leads (link : Link) (op : LinkOp) :
    Leads byLink now link.registry (op.apply now link).registry := by
  cases op with
  | send packet latency => exact link.leads_send packet latency
  | postReceive id number => exact link.leads_postReceive id number
  | drain id budget => exact link.leads_drain id budget
  | takeEvent id => exact .refl _ now link.registry
  | work id budget => exact link.leads_work id budget

/-! ## The system -/

/-- All that a rate does to failover is to place a flow. -/
theorem RateLimits.apply_cases (limits : RateLimits) (failover : Failover)
    (request : RateRequest) :
    (limits.apply failover request).2.2 = failover ∨
    ∃ flow target, (limits.apply failover request).2.2 = (failover.placeFlow flow target).2 := by
  unfold RateLimits.apply
  cases request.queue with
  | none => exact .inl rfl
  | some target =>
      refine .inr ⟨request.flow, target, ?_⟩
      simp only []
      cases failover.placeFlow request.flow target with
      | mk outcome after => cases outcome <;> rfl

theorem RateLimits.applyLine_cases (limits : RateLimits) (failover : Failover)
    (line : List Char) :
    (limits.applyLine failover line).2.2 = failover ∨
    ∃ flow target, (limits.applyLine failover line).2.2 = (failover.placeFlow flow target).2 := by
  unfold RateLimits.applyLine
  cases RateRequest.parse line with
  | error error => exact .inl rfl
  | ok request => exact limits.apply_cases failover request

theorem Failover.leads_placed {failover after : Failover}
    (placed : after = failover ∨ ∃ flow target, after = (failover.placeFlow flow target).2) :
    Leads byFailover now failover.registry after.registry := by
  rcases placed with rfl | ⟨flow, target, rfl⟩
  · exact .refl _ now after.registry
  · exact failover.leads_placeFlow flow target

/-- Does the operation reach the registry through failover, if it does at all. -/
def Operation.throughFailover : Operation → Bool
  | registry _ | link _ => false
  | _ => true

namespace System

/-- What does not come from the registry itself or from the packet path is done by failover. -/
theorem leads_throughFailover (system : System) {op : Operation}
    (through : op.throughFailover = true) :
    Leads byFailover system.clock.now system.registry (system.step op).registry := by
  cases op with
  | registry op => cases through
  | failover op => exact op.leads system.failover
  | link op => cases through
  | applyRate request =>
      exact Failover.leads_placed (system.limits.apply_cases system.failover request)
  | applyLine line =>
      exact Failover.leads_placed (system.limits.applyLine_cases system.failover line)
  | device op => exact .refl _ _ system.registry
  | clearRate flow => exact .refl _ _ system.registry
  | advance millis => exact .refl _ _ system.registry
  | advanceMicros micros => exact .refl _ _ system.registry
  | setClock time => exact .refl _ _ system.registry

/-- An operation of the system does to the registry what some operations on the registry do, one
after another. -/
theorem leads_step (system : System) (op : Operation) :
    Leads (fun _ => true) system.clock.now system.registry (system.step op).registry := by
  cases op with
  | registry op => exact .single op rfl
  | link op => exact (op.leads system.link).mono fun _ _ => rfl
  | _ => exact (system.leads_throughFailover rfl).mono fun _ _ => rfl

end System

end FlowSteer
