import Mathlib.Data.List.Induction
import FlowSteer.Proofs.Atomicity
import FlowSteer.Proofs.Registry.Carrying

/-!
# The history of traffic

A run leaves a log of the packets that were recorded in it (`System.recorded`). The log is not part
of the state, but the state is a summary of it:

1. `System.flow_step`, `System.trafficOn_step`: an operation adds to the entries and to the counters
   of queues what it records, and moves entries about without changing them.
2. `System.summarizes_run`: after every run, the entry of a flow sums up the packets that were
   recorded since no queue had the flow, wherever it has been in between, and the counters of a
   queue sum up what was recorded on it.

The packet path records packets as well, in the course of its own operations; the runs here are
those of registry, failover and rates.
-/

namespace FlowSteer

/-- A packet that was recorded. -/
structure PacketRecord where
  queue : QueueId
  flow : FlowId
  size : Nat
  direction : Direction
  time : Nat
deriving DecidableEq, Inhabited

/-- Number and bytes of some packets. -/
def tally (records : List PacketRecord) : Nat × Nat :=
  (records.length, (records.map (·.size)).sum)

theorem tally_append (first second : List PacketRecord) :
    tally (first ++ second) = tally first + tally second := by
  simp [tally]

/-- The entry sums up some packets, from the first to the latest. -/
structure Flow.Counts (entry : Flow) (records : List PacketRecord) : Prop where
  traffic : (entry.packets, entry.bytes) = tally records
  first : records.head?.map (·.time) = some entry.firstSeen
  latest : records.getLast?.map (·.time) = some entry.lastSeen

namespace Flow.Counts

variable {entry other : Flow} {records : List PacketRecord} {record : PacketRecord}

theorem of_sameTraffic (counts : other.Counts records)
    (same : entry.withoutLatency = other.withoutLatency) : entry.Counts records := by
  obtain ⟨-, packets, bytes, -, -, firstSeen, lastSeen⟩ := Flow.mk.inj same
  constructor
  · rw [packets, bytes]
    exact counts.traffic
  · rw [firstSeen]
    exact counts.first
  · rw [lastSeen]
    exact counts.latest

/-- A fresh entry with one packet. -/
theorem singleton (record : PacketRecord) :
    ((Flow.fresh record.flow record.time).addPacket record.size record.time).Counts [record] where
  traffic := by simp [Flow.addPacket, Flow.fresh, tally]
  first := rfl
  latest := by simp [Flow.addPacket, Flow.fresh]

/-- One packet more, not earlier than the others. -/
theorem concat (counts : entry.Counts records) (inOrder : ∀ old ∈ records, old.time ≤ record.time) :
    (entry.addPacket record.size record.time).Counts (records ++ [record]) := by
  obtain ⟨last, final, latest⟩ := Option.map_eq_some_iff.1 counts.latest
  have passed : entry.lastSeen ≤ record.time := by
    rw [← latest]
    exact inOrder last (List.mem_of_getLast? final)
  constructor
  · have traffic := counts.traffic
    simp only [tally, Prod.mk.injEq] at traffic
    simp [Flow.addPacket, tally, traffic]
  · obtain ⟨head, found, first⟩ := Option.map_eq_some_iff.1 counts.first
    rw [List.head?_append, found]
    exact congrArg some first
  · rw [List.getLast?_concat]
    exact congrArg some (Nat.max_eq_right passed).symm

end Flow.Counts

/-- Is the operation one of the packet path. -/
def Operation.isLink : Operation → Bool
  | link _ => true
  | _ => false

namespace System

/-! ## What is recorded -/

/-- The packet that an operation records, unless it is refused. -/
def recordedAt (system : System) : Operation → List PacketRecord
  | .registry (.record id flow size direction) =>
      match (system.registry.record id flow size direction system.clock.now).1 with
      | .ok () => [{ queue := id, flow, size, direction, time := system.clock.now }]
      | .error _ => []
  | _ => []

/-- The packets that a run records, in order. -/
def recorded (system : System) : List Operation → List PacketRecord
  | [] => []
  | operation :: rest => system.recordedAt operation ++ (system.step operation).recorded rest

theorem recorded_concat (system : System) (operations : List Operation) (operation : Operation) :
    system.recorded (operations ++ [operation]) =
      system.recorded operations ++ (system.run operations).recordedAt operation := by
  induction operations generalizing system with
  | nil => exact List.append_nil _
  | cons first rest ih =>
      rw [List.cons_append, recorded, ih, recorded, run_cons, List.append_assoc]

theorem time_of_mem_recordedAt {system : System} {operation : Operation} {record : PacketRecord}
    (member : record ∈ system.recordedAt operation) : record.time = system.clock.now := by
  unfold recordedAt at member
  split at member
  · split at member
    · rw [List.mem_singleton.1 member]
    · cases member
  · cases member

/-- What a run has recorded lies in the past, if the clock did not go back. -/
theorem time_le_of_mem_recorded {system : System} {operations : List Operation}
    (forward : system.Throughout Forward operations) {record : PacketRecord}
    (member : record ∈ system.recorded operations) :
    record.time ≤ (system.run operations).clock.now := by
  induction operations generalizing system with
  | nil => cases member
  | cons operation rest ih =>
      rcases List.mem_append.1 member with here | later
      · rw [time_of_mem_recordedAt here]
        have past := now_le_run forward
        exact past
      · exact ih forward.2 later

/-! ## Steps -/

variable {system : System}

/-- A packet is refused, and nothing is recorded or changed, or it is recorded and counted. -/
theorem record_step (own : system.registry.Ownership) (id : QueueId) (flow : FlowId) (size : Nat)
    (direction : Direction) :
    (system.recordedAt (.registry (.record id flow size direction)) = [] ∧
      (system.step (.registry (.record id flow size direction))).registry = system.registry) ∨
    (system.recordedAt (.registry (.record id flow size direction)) =
        [{ queue := id, flow, size, direction, time := system.clock.now }] ∧
      Registry.CountsPacket system.registry
        (system.step (.registry (.record id flow size direction))).registry id flow size direction
        system.clock.now) := by
  cases taken : (system.registry.record id flow size direction system.clock.now).1 with
  | error error =>
      left
      have same := system.registry.atomic_record id flow size direction _ error taken
      exact ⟨by simp only [recordedAt, taken], same⟩
  | ok _ =>
      right
      have counted := own.countsPacket taken
      exact ⟨by simp only [recordedAt, taken], counted⟩

/-- An operation that is not on the packet path counts a packet, or it records nothing and does
only what carries entries over. -/
theorem record_or_leads {operation : Operation} (notLink : operation.isLink = false) :
    (∃ id flow size direction, operation = .registry (.record id flow size direction)) ∨
    (system.recordedAt operation = [] ∧
      Registry.Leads RegistryOp.recordsNothing system.clock.now system.registry
        (system.step operation).registry) := by
  have nothing : ∀ op : RegistryOp, op.byFailover = true → op.recordsNothing = true := by
    intro op allowed
    cases op with
    | record id flow size direction => cases allowed
    | _ => rfl
  cases operation with
  | registry op =>
      have leads : ∀ other : RegistryOp, other.recordsNothing = true →
          Registry.Leads RegistryOp.recordsNothing system.clock.now system.registry
            (system.step (.registry other)).registry := fun other allowed => .single other allowed
      cases op with
      | record id flow size direction => exact .inl ⟨id, flow, size, direction, rfl⟩
      | _ => exact .inr ⟨rfl, leads _ rfl⟩
  | link op => cases notLink
  | _ => exact .inr ⟨rfl, (system.leads_throughFailover rfl).mono nothing⟩

/-- An entry that sums up what was recorded of a flow still does after a packet; a packet of a new
flow starts an entry. -/
theorem flow_record {after : Registry} (own : system.registry.Ownership) (record : PacketRecord)
    (counts : Registry.CountsPacket system.registry after record.queue record.flow record.size
      record.direction record.time) {id : QueueId} {flow : FlowId} {entry : Flow}
    (found : after.flow? id flow = some entry) :
    (∃ old, system.registry.flow? id flow = some old ∧
      ∀ records : List PacketRecord, (∀ earlier ∈ records, earlier.time ≤ record.time) →
        old.Counts records → entry.Counts (records ++ [record].filter (·.flow = flow))) ∨
    (system.registry.ownerOf flow = none ∧ entry.Counts ([record].filter (·.flow = flow))) := by
  rw [counts.flow?_eq] at found
  split at found
  case isTrue here =>
    obtain ⟨rfl, rfl⟩ := here
    cases found
    have itself : [record].filter (·.flow = record.flow) = [record] := by simp
    rw [itself]
    cases present : system.registry.flow? record.queue record.flow with
    | none =>
        right
        have unlisted : system.registry.ownerOf record.flow ≠ some record.queue := by
          rw [ne_eq, own.listed, present]
          exact Bool.false_ne_true
        refine ⟨?_, .singleton record⟩
        exact counts.directory.elim (fun listed => absurd listed.1 unlisted) And.left
    | some old => exact .inl ⟨old, rfl, fun records inOrder counted => counted.concat inOrder⟩
  case isFalse elsewhere =>
    refine .inl ⟨entry, found, fun records _ counted => ?_⟩
    have listed : system.registry.ownerOf flow = some id := own.listed.2 (by rw [found]; rfl)
    -- A packet of the flow is recorded where the flow is.
    have other : record.flow ≠ flow := by
      rintro rfl
      rcases counts.directory with ⟨owned, -⟩ | ⟨unowned, -⟩
      · rw [listed] at owned
        exact elsewhere ⟨Option.some.inj owned, rfl⟩
      · rw [listed] at unowned
        cases unowned
    simpa [other] using counted

/-- An entry comes from an entry of the same flow and sums up also what the operation records of
the flow, or the flow is new. -/
theorem flow_step (own : system.registry.Ownership) {operation : Operation}
    (notLink : operation.isLink = false) {id : QueueId} {flow : FlowId} {entry : Flow}
    (found : (system.step operation).registry.flow? id flow = some entry) :
    (∃ source old, system.registry.flow? source flow = some old ∧
      ∀ records : List PacketRecord, (∀ record ∈ records, record.time ≤ system.clock.now) →
        old.Counts records →
        entry.Counts (records ++ (system.recordedAt operation).filter (·.flow = flow))) ∨
    (system.registry.ownerOf flow = none ∧
      entry.Counts ((system.recordedAt operation).filter (·.flow = flow))) := by
  rcases record_or_leads notLink with ⟨target, key, size, direction, rfl⟩ | ⟨recorded, leads⟩
  · rcases record_step own target key size direction with ⟨recorded, same⟩ | ⟨recorded, counts⟩
    · rw [same] at found
      rw [recorded]
      exact .inl ⟨id, entry, found, fun records _ counted => by simpa using counted⟩
    · rw [recorded]
      exact (flow_record own ⟨target, key, size, direction, system.clock.now⟩ counts
        found).imp_left fun kept => ⟨id, kept⟩
  · obtain ⟨source, old, present, same⟩ := leads.carries own id flow entry found
    rw [recorded]
    refine .inl ⟨source, old, present, fun records _ counted => ?_⟩
    simpa using counted.of_sameTraffic same

/-- What an operation records is added to the traffic of the queues. -/
theorem trafficOn_step (own : system.registry.Ownership) {operation : Operation}
    (notLink : operation.isLink = false) (id : QueueId) (direction : Direction) :
    (system.step operation).registry.trafficOn id direction =
      system.registry.trafficOn id direction +
        tally ((system.recordedAt operation).filter
          fun record => record.queue = id ∧ record.direction = direction) := by
  rcases record_or_leads notLink with ⟨target, flow, size, towards, rfl⟩ | ⟨recorded, leads⟩
  · rcases record_step own target flow size towards with ⟨recorded, same⟩ | ⟨recorded, counts⟩
    · rw [recorded, same]
      rfl
    · rw [recorded, counts.trafficOn_eq, List.filter_singleton]
      by_cases here : target = id ∧ towards = direction
      · obtain ⟨rfl, rfl⟩ := here
        simp [tally]
      · have elsewhere : ¬(id = target ∧ direction = towards) :=
          fun same => here ⟨same.1.symm, same.2.symm⟩
        simp [here, elsewhere, tally]
  · rw [recorded, leads.trafficOn]
    rfl

/-! ## Runs -/

/-- No queue has the flow at first, and some queue has it after each operation. -/
structure TracksSince (system : System) (flow : FlowId) (operations : List Operation) : Prop where
  absent : system.registry.ownerOf flow = none
  tracked : ∀ first, first <+: operations → first ≠ [] →
    (system.run first).registry.ownerOf flow ≠ none

theorem TracksSince.nil {flow : FlowId} (absent : system.registry.ownerOf flow = none) :
    system.TracksSince flow [] where
  absent := absent
  tracked := fun _ initial notEmpty => absurd (List.prefix_nil.1 initial) notEmpty

theorem TracksSince.concat {flow : FlowId} {operations : List Operation}
    (tracks : system.TracksSince flow operations) {operation : Operation}
    (tracked : (system.run (operations ++ [operation])).registry.ownerOf flow ≠ none) :
    system.TracksSince flow (operations ++ [operation]) where
  absent := tracks.absent
  tracked := by
    intro first initial notEmpty
    rcases List.prefix_concat_iff.1 initial with rfl | earlier
    · exact tracked
    · exact tracks.tracked first earlier notEmpty

/-- Entries and counters sum up what a run has recorded. -/
structure Summarizes (start : System) (operations : List Operation) : Prop where
  /-- The entry of a flow sums up what was recorded of the flow since no queue had it. -/
  flows : ∀ {id flow entry}, (start.run operations).registry.flow? id flow = some entry →
    ∃ earlier later, operations = earlier ++ later ∧
      (start.run earlier).TracksSince flow later ∧
      entry.Counts (((start.run earlier).recorded later).filter (·.flow = flow))
  /-- The counters of a queue sum up what was recorded on the queue in their direction. -/
  queues : ∀ {id queue}, (start.run operations).registry.queues.get? id = some queue →
    ∀ direction, queue.traffic direction = tally ((start.recorded operations).filter
      fun record => record.queue = id ∧ record.direction = direction)

section Runs

variable (blueprint : Blueprint) {operations : List Operation}

/-- The traffic of queues after a run is what was recorded in it. -/
theorem trafficOn_run (notLink : ∀ operation ∈ operations, operation.isLink = false) (id : QueueId)
    (direction : Direction) :
    ((fresh blueprint).run operations).registry.trafficOn id direction =
      tally (((fresh blueprint).recorded operations).filter
        fun record => record.queue = id ∧ record.direction = direction) := by
  induction operations using List.reverseRecOn with
  | nil => rfl
  | append_singleton operations operation ih =>
      have own := ownership_run blueprint operations
      have off : operation.isLink = false := notLink operation (by simp)
      have traffic := ih fun earlier member => notLink earlier (by simp [member])
      rw [run_concat, trafficOn_step own off, traffic, recorded_concat, List.filter_append,
        tally_append]

/-- The entry of a flow after a run sums up what was recorded of the flow since no queue had it. -/
theorem flow_run (forward : (fresh blueprint).Throughout Forward operations)
    (notLink : ∀ operation ∈ operations, operation.isLink = false) {id : QueueId}
    {flow : FlowId} {entry : Flow}
    (found : ((fresh blueprint).run operations).registry.flow? id flow = some entry) :
    ∃ earlier later, operations = earlier ++ later ∧
      ((fresh blueprint).run earlier).TracksSince flow later ∧
      entry.Counts ((((fresh blueprint).run earlier).recorded later).filter (·.flow = flow)) := by
  induction operations using List.reverseRecOn generalizing id entry with
  | nil => cases found
  | append_singleton operations operation ih =>
      have own := ownership_run blueprint operations
      have ownAfter := ownership_run blueprint (operations ++ [operation])
      have off : operation.isLink = false := notLink operation (by simp)
      have earlierForward := (throughout_append.1 forward).1
      have tracked : ((fresh blueprint).run (operations ++ [operation])).registry.ownerOf flow ≠
          none := by
        rw [ownAfter.listed.2 (by rw [found]; rfl)]
        exact Option.some_ne_none id
      rw [run_concat] at found
      rcases flow_step own off found with ⟨source, old, present, goesOn⟩ | ⟨absent, counts⟩
      · obtain ⟨earlier, later, rfl, tracks, counts⟩ :=
          ih earlierForward (fun earlier member => notLink earlier (by simp [member])) present
        refine ⟨earlier, later ++ [operation], List.append_assoc .., ?_, ?_⟩
        · apply tracks.concat
          rwa [← run_append, ← List.append_assoc]
        · rw [recorded_concat, List.filter_append, ← run_append]
          refine goesOn _ ?_ counts
          intro record member
          rw [run_append]
          exact time_le_of_mem_recorded (throughout_append.1 earlierForward).2
            (List.mem_of_mem_filter member)
      -- The flow is new with this operation, so its history starts here.
      · refine ⟨operations, [operation], rfl, ?_, ?_⟩
        · refine (TracksSince.nil absent).concat ?_
          rwa [← run_append]
        · rw [recorded, recorded, List.append_nil]
          exact counts

end Runs

/-- Every run off the packet path in which the clock never goes back is summed up by the entries and
counters that it leaves. -/
theorem summarizes_run (blueprint : Blueprint) (operations : List Operation)
    (forward : (fresh blueprint).Throughout Forward operations)
    (notLink : ∀ operation ∈ operations, operation.isLink = false) :
    (fresh blueprint).Summarizes operations where
  flows := flow_run blueprint forward notLink
  queues := by
    intro id queue found direction
    rw [← Registry.trafficOn_of_get? found, trafficOn_run blueprint notLink]

/-- A flow that is moved by hand and by a remap, while its queues count packets of their own. -/
theorem summarizes_run_of_moved_flow :
    let blueprint : Blueprint := {
      capacity := 2, maxFlows := 8, buffersPerNode := 4, ringCapacity := 3 }
    let operations : List Operation := [.registry (.register 0 0), .registry (.register 1 0),
      .registry (.record 0 7 100 .rx), .advance 5, .registry (.record 0 7 50 .tx),
      .registry (.moveFlow 7 0 1), .registry (.record 1 7 10 .rx), .advance 5,
      .failover (.handleFailure 1), .registry (.recordLatency 7 3)]
    let system := (fresh blueprint).run operations
    (fresh blueprint).Summarizes operations ∧
      (system.registry.flow? 0 7).map (·.withoutLatency) =
        some { id := 7, packets := 3, bytes := 160, firstSeen := 0, lastSeen := 5 } ∧
      system.registry.trafficOn 0 .rx = (1, 100) ∧ system.registry.trafficOn 1 .rx = (1, 10) := by
  intro blueprint operations system
  exact ⟨summarizes_run blueprint operations (by decide) (by decide), by decide, by decide,
    by decide⟩

end System

end FlowSteer
