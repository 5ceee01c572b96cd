import FlowSteer.Proofs.Buffers.Pools
import FlowSteer.Proofs.Buffers.Work
import FlowSteer.Proofs.Link.Accounts
import FlowSteer.Proofs.Link.Outcomes

/-!
# Steps on buffers and work

The operations of the packet path are made of steps of two kinds:

* steps that take buffers into a hand and map them, or unmap them and give them back: `Covers`
  says that the buffers out are those in hand and those in rings, and `Covers.takeBuffer`,
  `Covers.giveBackAll`, `Covers.takeReceiveBuffers` follow the hand;
* steps that touch neither buffers nor work: all accounting (`Spares.account`,
  `Spares.finishAll`) and all taking of events (`Spares.takeEvents`, `Spares.takeEvent`).
-/

namespace FlowSteer

open Descriptor (buffersOf)

variable {nodes size : Nat} {hand : Multiset Buffer}

/-! ## Buffers and mappings -/

namespace Datapath

/-- The buffers out, all of them mapped, are those in hand and those in rings. -/
structure Covers (nodes size : Nat) (hand : Multiset Buffer) (datapath : Datapath) : Prop where
  lend : datapath.pools.Lend nodes size (hand + datapath.device.buffers)
  mapped : datapath.device.mapped = Multiset.card (hand + datapath.device.buffers)

/-- Nothing was handed to the device, collected from it or counted as an underflow. -/
structure SameRings (before after : Datapath) : Prop where
  rings : after.device.rings = before.device.rings
  underflows : after.stats.underflows = before.stats.underflows

theorem SameRings.refl (datapath : Datapath) : SameRings datapath datapath := ⟨rfl, rfl⟩

theorem SameRings.trans {before middle after : Datapath} (first : SameRings before middle)
    (second : SameRings middle after) : SameRings before after :=
  ⟨second.rings.trans first.rings, second.underflows.trans first.underflows⟩

theorem SameRings.ring {before after : Datapath} (same : SameRings before after) (id : QueueId) :
    (after.device.ring id).buffers = (before.device.ring id).buffers := by
  unfold Device.ring
  rw [same.rings]

namespace Covers

variable {datapath : Datapath}

/-- A buffer is refused, also when it cannot be mapped, or it is in hand. -/
theorem takeBuffer (covers : Covers nodes size hand datapath) (node : NodeId)
    (direction : Direction) :
    (∃ error rest, datapath.takeBuffer node direction = (.error error, rest) ∧
      Covers nodes size hand rest ∧ SameRings datapath rest) ∨
    ∃ mapping rest, datapath.takeBuffer node direction = (.ok mapping, rest) ∧
      mapping.buffer.node = node ∧ Covers nodes size (mapping.buffer ::ₘ hand) rest ∧
      SameRings datapath rest := by
  unfold Datapath.takeBuffer
  rcases covers.lend.alloc node with ⟨error, refused⟩ | ⟨buffer, pools, taken, named, lend⟩
  · rw [refused]
    exact .inl ⟨error, datapath, rfl, covers, .refl datapath⟩
  · rw [taken]
    unfold Device.mapBuffer
    by_cases faulty : 0 < datapath.device.faults
    · simp only [faulty, if_true]
      exact .inl ⟨_, _, rfl, ⟨lend.release, covers.mapped⟩, rfl, rfl⟩
    · simp only [faulty, if_false]
      refine .inr ⟨_, _, rfl, named, ⟨?_, ?_⟩, rfl, rfl⟩
      · rw [Multiset.cons_add]
        exact lend
      · rw [Multiset.cons_add, Multiset.card_cons]
        exact congrArg (· + 1) covers.mapped

theorem of_refused (covers : Covers nodes size hand datapath) {node : NodeId}
    {direction : Direction} {error : ControlError} {rest : Datapath}
    (refused : datapath.takeBuffer node direction = (.error error, rest)) :
    Covers nodes size hand rest ∧ SameRings datapath rest := by
  rcases covers.takeBuffer node direction with ⟨_, _, result, kept, same⟩ | ⟨_, _, result, _⟩
  · rw [refused] at result
    cases result
    exact ⟨kept, same⟩
  · rw [refused] at result
    cases result

theorem of_held (covers : Covers nodes size hand datapath) {node : NodeId}
    {direction : Direction} {mapping : Mapping} {rest : Datapath}
    (held : datapath.takeBuffer node direction = (.ok mapping, rest)) :
    mapping.buffer.node = node ∧ Covers nodes size (mapping.buffer ::ₘ hand) rest ∧
      SameRings datapath rest := by
  rcases covers.takeBuffer node direction with ⟨_, _, result, _⟩ | ⟨_, _, result, homed⟩
  · rw [held] at result
    cases result
  · rw [held] at result
    cases result
    exact homed

theorem giveBack {mapping : Mapping}
    (covers : Covers nodes size (mapping.buffer ::ₘ hand) datapath) :
    Covers nodes size hand (datapath.giveBack mapping) := by
  obtain ⟨lend, mapped⟩ := covers
  rw [Multiset.cons_add] at lend mapped
  rw [Multiset.card_cons] at mapped
  exact ⟨lend.release, Nat.sub_eq_of_eq_add mapped⟩

/-- All buffers in hand are given back. -/
theorem giveBackAll {mappings : List Mapping}
    (covers : Covers nodes size ((mappings.map (·.buffer) : List Buffer) : Multiset Buffer)
      datapath) :
    Covers nodes size 0 (mappings.foldl Datapath.giveBack datapath) ∧
      SameRings datapath (mappings.foldl Datapath.giveBack datapath) := by
  induction mappings generalizing datapath with
  | nil => exact ⟨covers, .refl datapath⟩
  | cons mapping rest ih =>
      rw [List.map_cons, ← Multiset.cons_coe] at covers
      have first : SameRings datapath (datapath.giveBack mapping) := ⟨rfl, rfl⟩
      obtain ⟨returned, same⟩ := ih covers.giveBack
      exact ⟨returned, first.trans same⟩

/-- As many receive buffers as there are, up to a number, are in hand. -/
theorem takeReceiveBuffers (covers : Covers nodes size hand datapath) (node : NodeId)
    (number : Nat) {descriptors : List Descriptor} {refusal : Option ControlError}
    {rest : Datapath}
    (taken : Datapath.takeReceiveBuffers node number datapath = (descriptors, refusal, rest)) :
    Covers nodes size (buffersOf descriptors + hand) rest ∧ SameRings datapath rest ∧
      ∀ buffer ∈ buffersOf descriptors, buffer.node = node := by
  induction number generalizing datapath hand descriptors refusal rest with
  | zero =>
      cases taken
      refine ⟨?_, .refl datapath, fun buffer member => absurd member (Multiset.notMem_zero buffer)⟩
      exact (zero_add hand).symm ▸ covers
  | succ number ih =>
      unfold Datapath.takeReceiveBuffers at taken
      rcases covers.takeBuffer node .rx with
        ⟨error, after, refused, kept, same⟩ | ⟨mapping, after, held, named, covered, same⟩
      · rw [refused] at taken
        cases taken
        refine ⟨?_, same, fun buffer member => absurd member (Multiset.notMem_zero buffer)⟩
        exact (zero_add hand).symm ▸ kept
      · rw [held] at taken
        cases later : Datapath.takeReceiveBuffers node number after with
        | mk more tail =>
            obtain ⟨refused, last⟩ := tail
            simp only [later] at taken
            cases taken
            obtain ⟨coveredMore, sameMore, homed⟩ := ih covered later
            have first : ∀ len, buffersOf ({ mapping, len, flow := none } :: more) =
                mapping.buffer ::ₘ buffersOf more := fun _ => rfl
            rw [first, Multiset.cons_add, ← Multiset.add_cons]
            refine ⟨coveredMore, same.trans sameMore, ?_⟩
            intro buffer member
            rcases Multiset.mem_cons.1 member with isFirst | inMore
            · rw [isFirst, named]
            · exact homed buffer inMore

end Covers

end Datapath

/-! ## Steps that touch neither buffers nor work -/

namespace Link

/-- Buffers, mappings, rings and work are as before, and no more underflows are counted. -/
structure Spares (before after : Link) : Prop where
  work : Registry.Keeps Queue.work before.registry after.registry
  pools : after.datapath.pools = before.datapath.pools
  device : Device.KeepsBuffers before.datapath.device after.datapath.device
  underflows : after.datapath.stats.underflows = before.datapath.stats.underflows

namespace Spares

variable {before middle after : Link}

theorem refl (link : Link) : Spares link link := ⟨.refl _ _, rfl, .refl _, rfl⟩

theorem trans (first : Spares before middle) (second : Spares middle after) :
    Spares before after where
  work := first.work.trans second.work
  pools := second.pools.trans first.pools
  device := first.device.trans second.device
  underflows := second.underflows.trans first.underflows

theorem count (link : Link) {change : LinkStats → LinkStats}
    (same : (change link.datapath.stats).underflows = link.datapath.stats.underflows) :
    Spares link (link.count change) := ⟨.refl _ _, rfl, .refl _, same⟩

theorem registry {link : Link} {changed : Registry}
    (work : Registry.Keeps Queue.work link.registry changed) :
    Spares link { link with registry := changed } := ⟨work, rfl, .refl _, rfl⟩

theorem account (link : Link) (id : QueueId) (flow : FlowId) (bytes : Nat)
    (direction : Direction) (now : Nat) :
    Spares link (link.account id flow bytes direction now) := by
  have work : Registry.Keeps Queue.work link.registry
      (link.account id flow bytes direction now).registry := by
    obtain ⟨counting, result⟩ := link.registry_account id flow bytes direction now
    rw [result]
    exact Registry.keeps_record Queue.work_blindToTraffic counting flow bytes direction now
  rcases link.datapath_account id flow bytes direction now with same | same
  · exact ⟨work, by rw [same], by rw [same]; exact .refl _, by rw [same]⟩
  · exact ⟨work, by rw [same]; rfl, by rw [same]; exact .refl _, by rw [same]; rfl⟩

theorem dropPacket (link : Link) (id : QueueId) (direction : Direction) :
    Spares link (link.dropPacket id direction) :=
  (registry (Registry.keeps_countDrop Queue.work_blindToTraffic id direction)).trans
    (count { link with registry := _ } rfl)

theorem sent (link : Link) (id : QueueId) (packet : Packet) (latency now : Nat) :
    Spares link (link.sent id packet latency now) := by
  have counted : Spares link (link.count fun stats =>
      { stats with
        txPackets := stats.txPackets + 1
        txBytes := stats.txBytes + packet.len }) := count link rfl
  have accounted := counted.trans (account _ id packet.flow packet.len .tx now)
  have sampled : ∀ registry : Registry, Registry.Keeps Queue.work registry
      (registry.recordLatency packet.flow latency).2 :=
    fun _ => Registry.keeps_recordLatency Queue.work_blindToTraffic.flows packet.flow latency
  exact accounted.trans ⟨sampled _, rfl, .refl _, rfl⟩

theorem finishOne (id : QueueId) (now : Nat) (state : DrainReport × Link)
    (completion : Completion) : Spares state.2 (Link.finishOne id now state completion).2 := by
  obtain ⟨report, link⟩ := state
  unfold Link.finishOne
  cases completion.status with
  | ok =>
      cases completion.descriptor.direction with
      | rx =>
          have counted : Spares link (link.count fun stats =>
              { stats with
                rxPackets := stats.rxPackets + 1
                rxBytes := stats.rxBytes + completion.len }) := count link rfl
          simp only []
          cases completion.flow <|> completion.descriptor.flow with
          | none => exact counted.trans (count _ rfl)
          | some flow => exact counted.trans (account _ id flow completion.len .rx now)
      | tx => exact count link rfl
  | error =>
      exact (registry (Registry.keeps_countError Queue.work_blindToTraffic id _)).trans
        (count { link with registry := _ } rfl)
  | dropped => exact dropPacket link id completion.descriptor.direction

theorem finishAll (id : QueueId) (now : Nat) (completions : List Completion)
    (state : DrainReport × Link) :
    Spares state.2 (completions.foldl (Link.finishOne id now) state).2 := by
  induction completions generalizing state with
  | nil => exact .refl state.2
  | cons completion rest ih => exact (finishOne id now state completion).trans (ih _)

theorem putChannel (link : Link) (id : QueueId) (channel : Channel) (taken : Nat) :
    Spares link { link with
      datapath := (link.datapath.putChannel id channel).count fun stats =>
        { stats with events := stats.events + taken } } :=
  ⟨.refl _ _, rfl, .of_rings rfl rfl, rfl⟩

theorem takeEvents (link : Link) (id : QueueId) :
    Spares link { link with datapath := (link.datapath.takeEvents id).2 } := by
  unfold Datapath.takeEvents
  cases link.datapath.channel? id with
  | none => exact .refl link
  | some channel => exact putChannel link id _ _

theorem takeEvent (link : Link) (id : QueueId) :
    Spares link { link with datapath := (link.datapath.takeEvent id).2 } := by
  rcases link.datapath.takeEvent_cases id with result | ⟨channel, rest, _, _, result⟩
  · rw [result]
    exact .refl link
  · rw [result]
    exact putChannel link id rest 1

end Spares

end Link

end FlowSteer
