import FlowSteer.Proofs.FlowOwnership
import FlowSteer.Proofs.Link.Balance
import FlowSteer.Proofs.Registry.Steering

/-!
# Steering agrees with recording

A packet is steered to a queue first and counted there afterwards. Both look at the owner of the
flow and at the status of the queue, each by itself. They agree (`System.steersAsRecorded_run`):
the queue to which a flow is steered counts its packet, unless the flow is new and the table of the
queue is full. Whether queue ids have gaps between them, and which queues are failed, does not
matter.

1. `fits_run`: queue ids lie within the slots, and all tables have the same limit.
2. `Link.tracked_send`: between steering and counting only pending work is added, so that a packet
   which was sent is counted for its flow, with the same exception.
-/

namespace FlowSteer

namespace Link

/-- A packet of a flow that was sent on a queue is counted, and the queue owns the flow; or it is
untracked, as the flow was new and the table of the queue was full. -/
def Tracked (before after : Link) (flow : FlowId) (id : QueueId) : Prop :=
  (after.datapath.stats.untracked = before.datapath.stats.untracked ∧
      after.registry.ownerOf flow = some id) ∨
    (after.datapath.stats.untracked = before.datapath.stats.untracked + 1 ∧
      before.registry.ownerOf flow = none ∧ before.registry.TableFull id)

variable {link after : Link} {id : QueueId} {packet : Packet} {latency now : Nat}

theorem ownerOf_recordLatency (registry : Registry) (flow other : FlowId) (latency : Nat) :
    (registry.recordLatency flow latency).2.ownerOf other = registry.ownerOf other := by
  rcases registry.recordLatency_cases flow latency with
    ⟨_, result⟩ | ⟨_, _, _, _, _, result⟩ <;> rw [result]
  rfl

/-- Counting a packet that the device has taken. -/
theorem tracked_sent (own : link.registry.Ownership) (fits : link.registry.Fits)
    (takes : link.registry.Takes packet.flow id) :
    Tracked link (link.sent id packet latency now) packet.flow id := by
  let counted := link.count fun stats =>
    { stats with txPackets := stats.txPackets + 1, txBytes := stats.txBytes + packet.len }
  rcases Registry.recorded_of_takes own fits takes packet.len .tx now with
    ⟨after, recorded, owned⟩ | ⟨refused, unowned, full⟩
  · have accounted : counted.account id packet.flow packet.len .tx now =
        { counted with registry := after } := account_of_counted recorded
    refine .inl ⟨?_, ?_⟩
    · show (counted.account id packet.flow packet.len .tx now).datapath.stats.untracked = _
      rw [accounted]
      rfl
    · show ((counted.account id packet.flow packet.len .tx now).registry.recordLatency packet.flow
        latency).2.ownerOf packet.flow = some id
      rw [ownerOf_recordLatency, accounted]
      exact owned
  · have accounted : counted.account id packet.flow packet.len .tx now = counted.missed :=
      account_of_refused refused nofun
    refine .inr ⟨?_, unowned, full⟩
    show (counted.account id packet.flow packet.len .tx now).datapath.stats.untracked = _
    rw [accounted]
    rfl

/-- Pending work does not matter for recording. -/
theorem takes_addWork (takes : link.registry.Takes packet.flow id) (work : Nat) :
    (link.registry.addWork id work).2.Takes packet.flow id := by
  rw [Registry.addWork, Registry.updateQueue_snd]
  refine takes.imp_right (And.imp_right ?_)
  rintro ⟨queue, found, inService⟩
  refine ⟨queue.addWork work, ?_, inService⟩
  rw [Registry.get?_adjust, if_pos rfl, found, Option.map_some]

theorem tableFull_of_addWork {registry : Registry} {work : Nat}
    (full : (registry.addWork id work).2.TableFull id) : registry.TableFull id := by
  rw [Registry.addWork, Registry.updateQueue_snd] at full
  obtain ⟨queue, found, limit⟩ := full
  rw [Registry.get?_adjust, if_pos rfl] at found
  obtain ⟨old, present, rfl⟩ := Option.map_eq_some_iff.1 found
  exact ⟨old, present, limit⟩

/-- A packet that was sent is counted for its flow, unless the flow was new and the table of the
queue was full. -/
theorem tracked_send (own : link.registry.Ownership) (fits : link.registry.Fits)
    {receipt : Receipt} (sent : link.send packet latency now = (.ok receipt, after)) :
    Tracked link after packet.flow receipt.queue := by
  rcases link.send_cases packet latency now with
    ⟨_, result⟩ | ⟨id, queue, chosen, found, ⟨_, _, _, result⟩ | ⟨mapping, datapath, held, ends⟩⟩
  · cases sent.symm.trans result
  · cases sent.symm.trans result
  rcases ends with ⟨_, _, _, result⟩ | ⟨submitted, taken, result⟩
  · cases sent.symm.trans result
  cases sent.symm.trans result
  have takes : link.registry.Takes packet.flow id := (fits.steer_eq_iff.1 chosen).takes
  have same := Datapath.Undisturbed.takeBuffer link.datapath queue.node .tx
  rw [held] at same
  have untracked : datapath.stats.books.untracked = link.datapath.stats.books.untracked :=
    congrArg LinkStats.untracked same.stats
  rcases ({ link with datapath } : Link).submit_cases id [packet.descriptor mapping] with
    ⟨_, _, refused⟩ | ⟨_, _, _, refused⟩ | ⟨device, _, handed⟩
  · cases taken.symm.trans refused
  · cases taken.symm.trans refused
  cases taken.symm.trans handed
  let pending := ({ link with datapath } : Link).handedOver id [packet.descriptor mapping] device
  have tracked : Tracked pending (pending.sent id packet latency now) packet.flow id :=
    tracked_sent (own.registryOp now (.addWork id 1)) (fits.registryOp now (.addWork id 1))
      (takes_addWork takes 1)
  rcases tracked with ⟨counted, owned⟩ | ⟨missed, unowned, full⟩
  · exact .inl ⟨counted.trans untracked, owned⟩
  · refine .inr ⟨missed.trans (congrArg (· + 1) untracked), ?_, tableFull_of_addWork full⟩
    have directory : (link.registry.addWork id 1).2.directory = link.registry.directory := by
      rw [Registry.addWork, Registry.updateQueue_snd, Registry.directory_adjust]
    have unchanged : (link.registry.addWork id 1).2.ownerOf packet.flow =
        link.registry.ownerOf packet.flow := congrArg (·.get? packet.flow) directory
    exact unchanged.symm.trans unowned

end Link

namespace System

theorem fits_step {system : System} (fits : system.registry.Fits) (operation : Operation) :
    (system.step operation).registry.Fits := by
  apply (system.leads_step operation).induct _ fits
  intro registry op _ kept
  exact kept.registryOp _ op

theorem fits_run (blueprint : Blueprint) (operations : List Operation) :
    ((fresh blueprint).run operations).registry.Fits := by
  have kept : ∀ system operation, True → system.registry.Fits →
      (step system operation).registry.Fits :=
    fun _ operation _ fits => fits_step fits operation
  exact run_induct kept (fun _ _ => trivial) (.empty blueprint.capacity blueprint.maxFlows)

/-- Steering goes slot by slot, and agrees with recording. -/
structure SteersAsRecorded (system : System) : Prop where
  steered : ∀ flow outcome,
    system.registry.steer flow = outcome ↔ system.registry.Steers flow outcome
  /-- The queue to which a flow is steered counts its packet, unless the flow is new and the table
  of the queue is full. -/
  recorded : ∀ {flow id}, system.registry.steer flow = .ok id → ∀ bytes direction now,
    (∃ after, system.registry.record id flow bytes direction now = (.ok (), after)) ∨
    system.registry.record id flow bytes direction now =
        (.error (.tableFull id), system.registry) ∧
      system.registry.ownerOf flow = none ∧ system.registry.TableFull id
  /-- A packet that is sent is untracked only in that case. -/
  sent : ∀ {packet latency now receipt after},
    system.link.send packet latency now = (.ok receipt, after) →
    Link.Tracked system.link after packet.flow receipt.queue

/-- After every run, flows are steered slot by slot, and to queues that count their packets unless
their tables are full. -/
theorem steersAsRecorded_run (blueprint : Blueprint) (operations : List Operation) :
    ((fresh blueprint).run operations).SteersAsRecorded := by
  have own := ownership_run blueprint operations
  have fits := fits_run blueprint operations
  constructor
  case steered => exact fun flow outcome => fits.steer_eq_iff
  case recorded =>
    intro flow id chosen bytes direction now
    have takes := (fits.steer_eq_iff.1 chosen).takes
    refine (Registry.recorded_of_takes own fits takes bytes direction now).imp_left ?_
    rintro ⟨after, counted, -⟩
    exact ⟨after, counted⟩
  case sent => exact Link.tracked_send own fits

end System

end FlowSteer
