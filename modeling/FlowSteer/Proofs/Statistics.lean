import FlowSteer.Proofs.Link.Balance

/-!
# The statistics balance

After every run from a fresh start the statistics of the packet path agree with the counters of the
queues, with the rings of the device and with the drains that were made.

1. `DrainRecord`, `System.drains`: the drains of a run, those of completion workers included, each
   with what it collected and its report. The state keeps no such record.
2. `Link.faithful_drain`: a report counts each completion once, within the budget.
3. `LinkOp.shifts`, `System.shifts_step`: an operation shifts the gap of the rings by the dropped
   completions that it drains, and the other gaps only if it counts packets or drops by itself.
4. `System.shifts_run`, `System.balances_run`: the same for a run, and what it makes of a run from a
   fresh start, where all gaps are closed.
-/

namespace FlowSteer

/-! ## Drains -/

/-- A drain: its budget, the completions that it collected, and its report. -/
structure DrainRecord where
  budget : Option Nat
  completions : List Completion
  report : DrainReport

namespace DrainRecord

/-- Completions of the drain that the device had dropped. -/
def dropped (record : DrainRecord) : Nat := record.completions.countP (·.status == .dropped)

/-- The report counts each completion once, and there are no more than the budget allows. -/
structure Faithful (record : DrainRecord) : Prop where
  completed : record.report.completed = record.completions.length
  outcomes : record.report.completed = record.report.rxPackets + record.report.txCompletions +
    record.report.errors + record.report.dropped
  dropped : record.report.dropped = record.dropped
  budget : ∀ budget ∈ record.budget, record.report.completed ≤ budget

end DrainRecord

namespace Link

variable {link after : Link} {id : QueueId} {budget : Option Nat} {now : Nat}

/-- The record of a drain, unless it is refused. -/
def drains (link : Link) (id : QueueId) (budget : Option Nat) (now : Nat) : List DrainRecord :=
  match (link.drain id budget now).1 with
  | .error _ => []
  | .ok report => [{ budget, completions := link.collected id budget, report }]

/-- The drains that are made as long as each of them uses up the budget. -/
def batchDrains (id : QueueId) (budget now : Nat) : (limit : Nat) → Link → List DrainRecord
  | 0, _ => []
  | limit + 1, link =>
      link.drains id (some budget) now ++
        match link.drain id (some budget) now with
        | (.error _, _) => []
        | (.ok report, after) =>
            if report.completed = budget then batchDrains id budget now limit after else []

/-- The drains of one run of a completion worker. -/
def workDrains (link : Link) (id : QueueId) (budget now : Nat) : List DrainRecord :=
  match link.datapath.takeEvent id with
  | (false, _) => link.drains id none now
  | (true, datapath) =>
      let limit := (datapath.device.ring id).completed.length + 1
      batchDrains id budget now limit { link with datapath } ++
        (drainBatches id budget now limit { link with datapath }).drains id none now

end Link

/-- The drains of an operation of the packet path. -/
def LinkOp.drains (now : Nat) (link : Link) : LinkOp → List DrainRecord
  | drain id budget => link.drains id budget now
  | work id budget => link.workDrains id budget now
  | _ => []

namespace System

/-- The drains of an operation. -/
def drainsAt (system : System) : Operation → List DrainRecord
  | .link op => op.drains system.clock.now system.link
  | _ => []

/-- The drains of a run, in order. -/
def drains (system : System) : List Operation → List DrainRecord
  | [] => []
  | operation :: rest => system.drainsAt operation ++ (system.step operation).drains rest

end System

/-! ## Reports -/

/-- A completion has one of four outcomes. -/
theorem Completion.outcome (completion : Completion) :
    (if completion.isReceived then 1 else 0) + (if completion.isSent then 1 else 0) +
      (if completion.status == .error then 1 else 0) +
      (if completion.status == .dropped then 1 else 0) = 1 := by
  unfold isReceived isSent
  cases completion.status <;> cases completion.descriptor.direction <;> rfl

/-- A report counts each completion by its outcome. -/
theorem DrainReport.completed_of (events : Nat) (completions : List Completion) :
    let report := DrainReport.of events completions
    report.completed =
      report.rxPackets + report.txCompletions + report.errors + report.dropped := by
  unfold DrainReport.of
  induction completions with
  | nil => rfl
  | cons completion rest ih =>
      have one := completion.outcome
      simp only [List.length_cons, List.countP_cons] at ih ⊢
      omega

namespace Link

variable {link after : Link} {id : QueueId} {budget : Option Nat} {now : Nat}

/-- A queue that is there is drained. -/
theorem drains_of_found {queue : Queue} (found : link.registry.queues.get? id = some queue)
    (budget : Option Nat) (now : Nat) : link.drains id budget now = [{
      budget
      completions := link.collected id budget
      report := .of (link.datapath.takeEvents id).1 (link.collected id budget) }] := by
  unfold drains
  rw [drain_fst found]

/-- A drain that is not refused reports on what it collects. -/
theorem report_drain {report : DrainReport}
    (drained : link.drain id budget now = (.ok report, after)) :
    report = .of (link.datapath.takeEvents id).1 (link.collected id budget) := by
  cases found : link.registry.queues.get? id with
  | none =>
      rw [drain_of_absent found] at drained
      cases congrArg Prod.fst drained
  | some queue =>
      have answer := drain_fst found budget now
      rw [drained] at answer
      exact Except.ok.inj answer

theorem length_collected_le {limit : Nat} (limited : limit ∈ budget) :
    (link.collected id budget).length ≤ limit := by
  rw [Option.mem_def] at limited
  subst limited
  exact List.length_take_le _ _

/-- The report of a drain counts each completion once, within the budget. -/
theorem faithful_drain {report : DrainReport}
    (drained : link.drain id budget now = (.ok report, after)) :
    DrainRecord.Faithful { budget, completions := link.collected id budget, report } := by
  obtain rfl := report_drain drained
  constructor
  case completed => rfl
  case outcomes => exact DrainReport.completed_of _ _
  case dropped => rfl
  case budget =>
    intro limit limited
    exact length_collected_le limited

theorem faithful_drains : ∀ record ∈ link.drains id budget now, record.Faithful := by
  unfold drains
  cases drained : link.drain id budget now with
  | mk outcome after =>
      cases outcome with
      | error error => exact fun _ there => absurd there List.not_mem_nil
      | ok report => exact List.forall_mem_singleton.2 (faithful_drain drained)

theorem faithful_batchDrains (id : QueueId) (budget now limit : Nat) (link : Link) :
    ∀ record ∈ batchDrains id budget now limit link, record.Faithful := by
  induction limit generalizing link with
  | zero => exact fun _ there => absurd there List.not_mem_nil
  | succ limit ih =>
      refine List.forall_mem_append.2 ⟨faithful_drains, ?_⟩
      cases link.drain id (some budget) now with
      | mk outcome after =>
          cases outcome with
          | error error => exact fun _ there => absurd there List.not_mem_nil
          | ok report =>
              simp only []
              split
              · exact ih after
              · exact fun _ there => absurd there List.not_mem_nil

theorem faithful_workDrains (link : Link) (id : QueueId) (budget now : Nat) :
    ∀ record ∈ link.workDrains id budget now, record.Faithful := by
  unfold workDrains
  split
  · exact faithful_drains
  · exact List.forall_mem_append.2 ⟨faithful_batchDrains id budget now _ _, faithful_drains⟩

end Link

/-- All reports of a run count each completion once, within the budget. -/
theorem System.faithful_drains (system : System) (operations : List Operation) :
    ∀ record ∈ system.drains operations, record.Faithful := by
  induction operations generalizing system with
  | nil => exact fun _ there => absurd there List.not_mem_nil
  | cons operation rest ih =>
      refine List.forall_mem_append.2 ⟨?_, ih _⟩
      cases operation with
      | link op =>
          cases op with
          | drain id budget => exact Link.faithful_drains
          | work id budget => exact system.link.faithful_workDrains id budget _
          | _ => exact fun _ there => absurd there List.not_mem_nil
      | _ => exact fun _ there => absurd there List.not_mem_nil

/-! ## Balances -/

/-- Completions of some drains that the device had dropped. -/
def droppedIn (drains : List DrainRecord) : Nat :=
  (drains.flatMap DrainRecord.completions).countP (·.status == .dropped)

theorem droppedIn_append (first second : List DrainRecord) :
    droppedIn (first ++ second) = droppedIn first + droppedIn second := by
  rw [droppedIn, List.flatMap_append, List.countP_append]
  rfl

theorem droppedIn_singleton (record : DrainRecord) : droppedIn [record] = record.dropped := by
  rw [droppedIn, List.flatMap_singleton]
  rfl

namespace Link

variable {link after : Link} {id : QueueId} {now : Nat}

theorem shifts_drains (link : Link) (id : QueueId) (budget : Option Nat) (now : Nat) :
    Shifts 0 0 (droppedIn (link.drains id budget now)) link (link.drain id budget now).2 := by
  cases found : link.registry.queues.get? id with
  | none =>
      rw [drains, drain_of_absent found]
      exact .refl link
  | some queue =>
      rw [drains_of_found found, droppedIn_singleton]
      exact .drain link id budget now found

theorem shifts_batchDrains (id : QueueId) (budget now limit : Nat) (link : Link) :
    Shifts 0 0 (droppedIn (batchDrains id budget now limit link)) link
      (drainBatches id budget now limit link) := by
  induction limit generalizing link with
  | zero => exact .refl link
  | succ limit ih =>
      have first := link.shifts_drains id (some budget) now
      unfold batchDrains drainBatches
      rw [droppedIn_append]
      cases drained : link.drain id (some budget) now with
      | mk outcome after =>
          rw [drained] at first
          cases outcome with
          | error error => exact first
          | ok report =>
              simp only []
              by_cases full : report.completed = budget
              · rw [if_pos full, if_pos full, Int.natCast_add]
                exact first.trans (ih after)
              · rw [if_neg full, if_neg full]
                exact first

theorem shifts_workDrains (link : Link) (id : QueueId) (budget now : Nat) :
    Shifts 0 0 (droppedIn (link.workDrains id budget now)) link (link.work id budget now) := by
  have taken : Shifts 0 0 0 link { link with datapath := (link.datapath.takeEvent id).2 } :=
    .of_undisturbed (.takeEvent link.datapath id)
  unfold workDrains work
  cases waiting : link.datapath.takeEvent id with
  | mk waits datapath =>
      rw [waiting] at taken
      cases waits with
      | false => exact link.shifts_drains id none now
      | true =>
          simp only []
          have batches := taken.trans (shifts_batchDrains id budget now
            ((datapath.device.ring id).completed.length + 1) { link with datapath })
          have whole := batches.trans (shifts_drains _ id none now)
          rw [droppedIn_append, Int.natCast_add]
          simp only [zero_add] at whole
          exact whole

end Link

/-- The packet path shifts the gap of the rings by the dropped completions that it drains. -/
theorem LinkOp.shifts (now : Nat) (link : Link) (op : LinkOp) :
    Link.Shifts 0 0 (droppedIn (op.drains now link)) link (op.apply now link) := by
  cases op with
  | send packet latency => exact .send link packet latency now
  | postReceive id number => exact .postReceive link id number
  | drain id budget => exact link.shifts_drains id budget now
  | takeEvent id => exact .of_undisturbed (.takeEvent link.datapath id)
  | work id budget => exact link.shifts_workDrains id budget now

/-! ## Runs -/

namespace RegistryOp

/-- Does the operation count packets past the packet path. -/
def countsPacket : RegistryOp → Bool
  | record .. => true
  | _ => false

/-- Does the operation count drops past the packet path. -/
def countsDrop : RegistryOp → Bool
  | countDrop .. => true
  | _ => false

end RegistryOp

namespace Operation

/-- Does the operation count packets past the packet path. -/
def countsPacket : Operation → Bool
  | registry op => op.countsPacket
  | _ => false

/-- Does the operation count drops past the packet path. -/
def countsDrop : Operation → Bool
  | registry op => op.countsDrop
  | _ => false

end Operation

namespace Registry

/-- A new queue has counted nothing. -/
theorem counts_register (registry : Registry) (id : QueueId) (node : NodeId) :
    (registry.register id node).2.packets = registry.packets ∧
      (registry.register id node).2.drops = registry.drops := by
  rcases registry.register_cases id node with ⟨_, result⟩ | ⟨missing, result⟩
  · rw [result]
    exact ⟨rfl, rfl⟩
  · rw [result]
    have packets := registry.queues.total_insert Queue.packets id (.fresh node registry.maxFlows)
    have drops := registry.queues.total_insert Queue.drops id (.fresh node registry.maxFlows)
    rw [missing] at packets drops
    exact ⟨packets, drops⟩

/-- An operation on the registry counts packets or drops only if it is one that does. -/
theorem counts_apply (registry : Registry) (now : Nat) (op : RegistryOp) :
    (op.countsPacket = false → (op.apply now registry).packets = registry.packets) ∧
      (op.countsDrop = false → (op.apply now registry).drops = registry.drops) := by
  have quiet := registry.keepsCounts now op
  cases op with
  | register id node =>
      obtain ⟨packets, drops⟩ := registry.counts_register id node
      exact ⟨fun _ => packets, fun _ => drops⟩
  | record id flow size direction =>
      refine ⟨(nomatch ·), fun _ => ?_⟩
      show (registry.record id flow size direction now).2.drops = _
      cases recorded : registry.record id flow size direction now with
      | mk outcome after =>
          cases outcome with
          | error error => rw [record_of_error recorded]
          | ok _ => exact (counts_record recorded).2
  | countDrop id direction =>
      refine ⟨fun _ => ?_, (nomatch ·)⟩
      show (registry.countDrop id direction).2.packets = _
      cases found : registry.queues.get? id with
      | none => rw [countDrop, updateQueue_snd, adjust_of_absent found]
      | some queue => exact (counts_countDrop found direction).1
  | _ =>
      obtain ⟨packets, drops⟩ := counts_of_keeps (quiet rfl)
      exact ⟨fun _ => packets, fun _ => drops⟩

end Registry

namespace Link.Shifts

/-- A change to the registry alone shifts the gaps of packets and drops by what it counts. -/
theorem of_counts (link : Link) (registry : Registry) :
    Shifts (link.registry.packets - registry.packets) (link.registry.drops - registry.drops) 0
      link { link with registry } := by
  constructor <;> simp only [packetGap, dropGap, ringGap, inRings] <;> omega

end Link.Shifts

namespace System

/-- An operation shifts the gap of the rings by the dropped completions that it drains, and the gaps
of packets and drops only if it counts these past the packet path. -/
theorem shifts_step (system : System) (operation : Operation) :
    ∃ packets drops, Link.Shifts packets drops (droppedIn (system.drainsAt operation)) system.link
        (system.step operation).link ∧
      (operation.countsPacket = false → packets = 0) ∧
      (operation.countsDrop = false → drops = 0) := by
  cases operation with
  | registry op =>
      obtain ⟨packets, drops⟩ := system.registry.counts_apply system.clock.now op
      refine ⟨_, _, .of_counts system.link (op.apply system.clock.now system.registry), ?_, ?_⟩
      · intro quiet
        rw [packets quiet]
        exact sub_self _
      · intro quiet
        rw [drops quiet]
        exact sub_self _
  | link op =>
      exact ⟨0, 0, op.shifts system.clock.now system.link, fun _ => rfl, fun _ => rfl⟩
  | device op =>
      have same := (op.keepsBuffers system.datapath.device).buffers
      exact ⟨0, 0, .of_undisturbed ⟨rfl, same⟩, fun _ => rfl, fun _ => rfl⟩
  | _ =>
      refine ⟨0, 0, .of_keeps ?_ (.refl _), fun _ => rfl, fun _ => rfl⟩
      apply (system.leads_throughFailover rfl).keeps
      intro registry op allowed
      refine registry.keepsCounts _ op ?_
      cases op <;> first | rfl | cases allowed

/-- A run shifts the gap of the rings by the dropped completions that it drains, and the gaps of
packets and drops only if one of its operations counts these past the packet path. -/
theorem shifts_run (system : System) (operations : List Operation) :
    ∃ packets drops, Link.Shifts packets drops (droppedIn (system.drains operations)) system.link
        (system.run operations).link ∧
      ((∀ operation ∈ operations, operation.countsPacket = false) → packets = 0) ∧
      ((∀ operation ∈ operations, operation.countsDrop = false) → drops = 0) := by
  induction operations generalizing system with
  | nil => exact ⟨0, 0, .refl _, fun _ => rfl, fun _ => rfl⟩
  | cons operation rest ih =>
      obtain ⟨packets, drops, shifted, noPackets, noDrops⟩ := system.shifts_step operation
      obtain ⟨laterPackets, laterDrops, laterShifted, laterNoPackets, laterNoDrops⟩ :=
        ih (system.step operation)
      refine ⟨packets + laterPackets, drops + laterDrops, ?_, ?_, ?_⟩
      · rw [drains, droppedIn_append, Int.natCast_add]
        exact shifted.trans laterShifted
      · intro quiet
        obtain ⟨first, later⟩ := List.forall_mem_cons.1 quiet
        rw [noPackets first, laterNoPackets later, add_zero]
      · intro quiet
        obtain ⟨first, later⟩ := List.forall_mem_cons.1 quiet
        rw [noDrops first, laterNoDrops later, add_zero]

/-- The statistics of the packet path agree with the counters of the queues, the rings of the device
and the drains of a run from a fresh start. -/
structure Balances (blueprint : Blueprint) (operations : List Operation) : Prop where
  /-- Each packet is on the counters of one queue or is untracked, when the packet path alone counts
  packets. -/
  packets : (∀ operation ∈ operations, operation.countsPacket = false) →
    let system := (fresh blueprint).run operations
    system.datapath.stats.txPackets + system.datapath.stats.rxPackets =
      (system.registry.queues.total fun queue =>
        queue.counters.txPackets + queue.counters.rxPackets) + system.datapath.stats.untracked
  /-- Each drop is on the counters of one queue, when the packet path alone counts drops. -/
  drops : (∀ operation ∈ operations, operation.countsDrop = false) →
    let system := (fresh blueprint).run operations
    system.datapath.stats.dropped = system.registry.queues.total fun queue =>
      queue.counters.txDropped + queue.counters.rxDropped
  /-- Each descriptor handed to the device is counted as completed, was dropped, or is in a ring. -/
  rings :
    let system := (fresh blueprint).run operations
    system.datapath.stats.rxPosted + system.datapath.stats.txPackets =
      system.datapath.stats.txCompletions + system.datapath.stats.rxPackets +
        system.datapath.stats.errors + droppedIn ((fresh blueprint).drains operations) +
        system.datapath.device.rings.total fun ring => ring.inFlight.length + ring.completed.length
  /-- Each report of a drain counts each completion once, within the budget. -/
  reports : ∀ record ∈ (fresh blueprint).drains operations, record.Faithful

/-- The statistics balance after every run. -/
theorem balances_run (blueprint : Blueprint) (operations : List Operation) :
    Balances blueprint operations := by
  obtain ⟨packets, drops, shifted, noPackets, noDrops⟩ := (fresh blueprint).shifts_run operations
  have start : (fresh blueprint).link.packetGap = 0 ∧ (fresh blueprint).link.dropGap = 0 ∧
      (fresh blueprint).link.ringGap = 0 := ⟨rfl, rfl, rfl⟩
  obtain ⟨noPacketGap, noDropGap, noRingGap⟩ := start
  constructor
  case packets =>
    intro quiet
    have gap := shifted.packets
    rw [noPackets quiet, noPacketGap] at gap
    exact Int.ofNat.inj (Int.eq_of_sub_eq_zero gap)
  case drops =>
    intro quiet
    have gap := shifted.drops
    rw [noDrops quiet, noDropGap] at gap
    exact Int.ofNat.inj (Int.eq_of_sub_eq_zero gap)
  case rings =>
    have gap := shifted.rings
    rw [noRingGap, zero_add, Link.ringGap, Link.inRings, Device.card_buffers] at gap
    have sum := Int.ofNat.inj (Int.sub_eq_iff_eq_add.1 gap)
    exact (sum.trans (Nat.add_left_comm ..)).trans (Nat.add_assoc ..).symm
  case reports => exact (fresh blueprint).faithful_drains operations

/-- Of five descriptors handed over, one receives a packet whose flow finds no room, one is dropped
by the device, one fails, and two stay in the ring. A third packet to send is dropped, as the ring
is full. -/
theorem balances_run_of_each_outcome :
    let blueprint : Blueprint := {
      capacity := 4, maxFlows := 2, buffersPerNode := 6, ringCapacity := 5 }
    let operations : List Operation := [.registry (.register 0 0), .link (.postReceive 0 3),
      .link (.send { flow := 5, len := 60 } 7), .link (.send { flow := 6, len := 60 } 7),
      .link (.send { flow := 5, len := 60 } 7), .device (.receive 0 9 40),
      .device (.complete 0 .dropped), .device (.complete 0 .error), .device (.complete 0 .ok),
      .link (.drain 0 (some 3))]
    let system := (fresh blueprint).run operations
    Balances blueprint operations ∧
      (∀ operation ∈ operations,
        operation.countsPacket = false ∧ operation.countsDrop = false) ∧
      system.datapath.stats.rxPackets = 1 ∧ system.datapath.stats.untracked = 1 ∧
      system.datapath.stats.dropped = 2 ∧ droppedIn ((fresh blueprint).drains operations) = 1 ∧
      system.datapath.device.mapped = 2 :=
  ⟨balances_run _ _, by decide, by decide, by decide, by decide, by decide, by decide⟩

end System

end FlowSteer
