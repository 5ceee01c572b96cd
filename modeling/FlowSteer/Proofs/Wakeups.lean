import FlowSteer.Proofs.Link.Signals
import FlowSteer.Proofs.Statistics

/-!
# No lost wake-up

A completion worker sleeps until an event of its queue arrives. Then it drains the queue, and once
more as long as a drain used up its budget. An event that finds the channel full is dropped, and a
drain takes all events before it looks at the completions, so there are far fewer events than
completions. Still the worker does not sleep while completions wait:

1. `Signals.Wakes`: while completions wait, an event waits too or the last drain used up its budget.
   `Wakes.complete`, `Wakes.drain` and `Wakes.attach` say that this is kept by whatever happens to a
   queue.
2. `System.drainsOf`: the drains of one queue in a run. `System.Watched` is what an operation may
   not do: complete a descriptor of a queue that nobody listens to, and take its events other than
   by drains.
3. `System.wakes_step`, `System.wakes_run`: so it is kept by every operation and by every run.
4. `System.keepsAwake_run`: what this means for a worker.
-/

namespace FlowSteer

/-! ## Channels -/

namespace Channel

/-- Someone is there to take the events, and there are no more of them than there is room for. -/
structure Sound (channel : Channel) : Prop where
  isOpen : channel.isOpen = true
  bounded : channel.waiting ≤ channel.capacity

variable {channel : Channel}

theorem capacity_notify (channel : Channel) : channel.notify.2.capacity = channel.capacity := by
  unfold notify
  split
  · rfl
  · split <;> rfl

/-- A signal is taken in when there is room, and otherwise one waits already. -/
theorem Sound.waiting_notify (sound : channel.Sound) :
    channel.notify.2.waiting = min (channel.waiting + 1) channel.capacity := by
  have bounded := sound.bounded
  unfold notify
  simp only [sound.isOpen, Bool.not_true, Bool.false_eq_true, if_false]
  split <;> simp only [] <;> omega

theorem Sound.notify (sound : channel.Sound) : channel.notify.2.Sound where
  isOpen := by
    unfold Channel.notify
    simp only [sound.isOpen, Bool.not_true, Bool.false_eq_true, if_false]
    split
    · rfl
    · exact sound.isOpen
  bounded := by
    rw [sound.waiting_notify, capacity_notify]
    exact Nat.min_le_right ..

theorem Sound.receiveAll (sound : channel.Sound) : channel.receiveAll.2.Sound := by
  unfold Channel.receiveAll
  rw [if_pos sound.isOpen]
  exact ⟨sound.isOpen, Nat.zero_le _⟩

end Channel

/-! ## Signals of one queue -/

namespace Signals

variable {signals : Signals} {past : List DrainRecord}

/-- A vector is attached with room for an event, and the datapath listens to it. -/
def Attended (signals : Signals) : Prop :=
  signals.parted = false ∧ ∃ channel, signals.channel = some channel ∧ 0 < channel.capacity

instance (signals : Signals) : Decidable signals.Attended :=
  decidable_of_iff
    (signals.parted = false ∧ signals.channel.any fun channel => 0 < channel.capacity)
    (by simp [Attended, Option.any_eq_true])

/-- While completions wait, an event waits too, or the last of the drains so far used up its
budget. -/
structure Wakes (past : List DrainRecord) (signals : Signals) : Prop where
  sound : ∀ channel, signals.channel = some channel → channel.Sound
  wakes : signals.completed ≠ [] →
    (∃ channel, signals.channel = some channel ∧ 0 < channel.waiting) ∨
      ∃ record, past.getLast? = some record ∧ record.budget = some record.report.completed

theorem Attended.complete (attended : signals.Attended) (completion : Completion) :
    (signals.complete completion).Attended := by
  obtain ⟨joined, channel, listens, room⟩ := attended
  refine ⟨joined, channel.notify.2, ?_, ?_⟩
  · rw [channel_complete joined, listens]
    rfl
  · rw [channel.capacity_notify]
    exact room

namespace Wakes

/-- A completion raises an event. -/
theorem complete (wakes : signals.Wakes past) (attended : signals.Attended)
    (completion : Completion) : (signals.complete completion).Wakes past where
  sound := by
    intro after raised
    rw [channel_complete attended.1] at raised
    obtain ⟨channel, listens, rfl⟩ := Option.map_eq_some_iff.1 raised
    exact (wakes.sound channel listens).notify
  wakes := by
    intro _
    obtain ⟨joined, channel, listens, room⟩ := attended
    rw [channel_complete joined, listens]
    refine .inl ⟨channel.notify.2, rfl, ?_⟩
    rw [(wakes.sound channel listens).waiting_notify]
    exact Nat.lt_min.2 ⟨Nat.succ_pos _, room⟩

/-- A drain takes all events. It leaves completions only when it used up its budget. -/
theorem drain (wakes : signals.Wakes past) {record : DrainRecord} {size : Nat}
    (full : size < signals.completed.length → record.budget = some record.report.completed) :
    (signals.drain size).Wakes (past ++ [record]) where
  sound := by
    intro after heard
    obtain ⟨channel, listens, rfl⟩ := Option.map_eq_some_iff.1 heard
    exact (wakes.sound channel listens).receiveAll
  wakes := by
    intro left
    -- Whatever is left was beyond the budget.
    have more : size < signals.completed.length := by
      by_contra fewer
      exact left (List.drop_eq_nil_of_le (Nat.not_lt.1 fewer))
    exact .inr ⟨record, List.getLast?_concat .., full more⟩

/-- A vector that is attached late does no harm. -/
theorem attach (wakes : signals.Wakes past) (absent : signals.channel = none) (capacity : Nat) :
    Signals.Wakes past { signals with channel := some { capacity } } where
  sound := by
    rintro _ ⟨⟩
    exact ⟨rfl, Nat.zero_le capacity⟩
  wakes := by
    intro left
    rcases wakes.wakes left with ⟨channel, listens, _⟩ | used
    · rw [absent] at listens
      cases listens
    · exact .inr used

end Wakes

end Signals

/-! ## Operations and one queue -/

namespace Operation

/-- Does the device complete descriptors of the queue. -/
def completesFor (id : QueueId) : Operation → Bool
  | .device (.complete other _) | .device (.receive other _ _) | .device (.completeSends other) =>
      other == id
  | _ => false

/-- Does the operation take events of the queue, other than by a drain, or detach its vector. -/
def divertsFrom (id : QueueId) : Operation → Bool
  | .link (.takeEvent other) | .link (.work other _) | .device (.detach other) => other == id
  | _ => false

end Operation

namespace System

variable {system : System} {id : QueueId} {past : List DrainRecord}

/-- The drains of one queue by an operation. -/
def drainsOfAt (system : System) (id : QueueId) : Operation → List DrainRecord
  | .link (.drain other budget) =>
      if other = id then system.link.drains id budget system.clock.now else []
  | _ => []

/-- The drains of one queue in a run, in order. -/
def drainsOf (system : System) (id : QueueId) : List Operation → List DrainRecord
  | [] => []
  | operation :: rest =>
      system.drainsOfAt id operation ++ (system.step operation).drainsOf id rest

/-- The events of the queue are left to its drains, and its vector is attended whenever the device
completes one of its descriptors. -/
structure Watched (id : QueueId) (system : System) (operation : Operation) : Prop where
  undiverted : operation.divertsFrom id = false
  attended : operation.completesFor id = true → (system.datapath.signals id).Attended

instance (id : QueueId) (system : System) (operation : Operation) :
    Decidable (system.Watched id operation) :=
  decidable_of_iff
    (operation.divertsFrom id = false ∧
      (operation.completesFor id = true → (system.datapath.signals id).Attended))
    ⟨fun both => ⟨both.1, both.2⟩, fun watched => ⟨watched.undiverted, watched.attended⟩⟩

end System

namespace Link

variable {link : Link} {id : QueueId} {past : List DrainRecord}

/-- A drain of the queue. -/
theorem wakes_drain (wakes : (link.datapath.signals id).Wakes past) (budget : Option Nat)
    (now : Nat) : ((link.drain id budget now).2.datapath.signals id).Wakes
      (past ++ link.drains id budget now) := by
  cases found : link.registry.queues.get? id with
  | none =>
      rw [drains, drain_of_absent found, List.append_nil]
      exact wakes
  | some queue =>
      rw [signals_drain found, if_pos rfl, drains_of_found found]
      apply wakes.drain
      intro more
      cases budget with
      | none => exact absurd more (Nat.lt_irrefl _)
      | some budget =>
          have size : (link.collected id (some budget)).length = budget :=
            List.length_take_of_le (Nat.le_of_lt more)
          exact congrArg some size.symm

end Link

namespace Datapath

variable {datapath : Datapath} {id other : QueueId} {past : List DrainRecord}

/-- The device completes a descriptor of some queue, an attended one if it is the queue. -/
theorem wakes_finish (attended : other = id → (datapath.signals id).Attended)
    (wakes : (datapath.signals id).Wakes past) (asked : Descriptor → Bool)
    (complete : Descriptor → Completion) :
    let after := datapath.withDevice (datapath.device.finish other asked complete).2
    (other = id → (after.signals id).Attended) ∧ (after.signals id).Wakes past := by
  intro after
  by_cases same : other = id
  · subst same
    rcases datapath.signals_finish other asked complete with unchanged | ⟨completion, completed⟩
    · rw [unchanged]
      exact ⟨attended, wakes⟩
    · rw [completed]
      exact ⟨fun _ => (attended rfl).complete completion, wakes.complete (attended rfl) completion⟩
  · rw [signals_finish_of_ne (Ne.symm same)]
    exact ⟨attended, wakes⟩

theorem wakes_completeSendsUpTo (limit : Nat)
    (attended : other = id → (datapath.signals id).Attended)
    (wakes : (datapath.signals id).Wakes past) :
    let after := datapath.withDevice (Device.completeSendsUpTo other limit datapath.device).2
    (after.signals id).Wakes past := by
  induction limit generalizing datapath with
  | zero => exact wakes
  | succ limit ih =>
      intro after
      -- The vector stays attended from one completion to the next.
      obtain ⟨stillAttended, stillWakes⟩ :=
        wakes_finish attended wakes (·.direction == .tx) (·.completeAs .ok)
      unfold after Device.completeSendsUpTo
      cases finished : datapath.device.finish other (·.direction == .tx) (·.completeAs .ok) with
      | mk done device =>
          rw [finished] at stillAttended stillWakes
          cases done with
          | false => exact stillWakes
          | true => exact ih stillAttended stillWakes

end Datapath

/-! ## Operations and runs -/

/-- Signals that are as before. -/
theorem Signals.Wakes.unchanged {signals after : Signals} {past : List DrainRecord}
    (wakes : signals.Wakes past) (same : after = signals) : after.Wakes (past ++ []) := by
  rw [same, List.append_nil]
  exact wakes

namespace System

variable {system : System} {id : QueueId} {past : List DrainRecord}

theorem wakes_step {operation : Operation} (watched : system.Watched id operation)
    (wakes : (system.datapath.signals id).Wakes past) :
    ((system.step operation).datapath.signals id).Wakes
      (past ++ system.drainsOfAt id operation) := by
  obtain ⟨undiverted, attended⟩ := watched
  -- Only drains, completions and new vectors change the signals; all else leaves them as they are.
  cases operation with
  | link op =>
      cases op with
      | send packet latency =>
          exact wakes.unchanged ((Datapath.signals_blindToTransfers id).send system.link packet
            latency system.clock.now)
      | postReceive other number =>
          exact wakes.unchanged ((Datapath.signals_blindToTransfers id).postReceive system.link
            other number)
      | drain other budget =>
          unfold drainsOfAt
          by_cases same : other = id
          · simp only [if_pos same]
            rw [same]
            exact Link.wakes_drain wakes budget system.clock.now
          · simp only [if_neg same]
            exact wakes.unchanged (Link.signals_drain_of_ne (Ne.symm same) system.link budget _)
      | takeEvent other =>
          have different : id ≠ other := Ne.symm (ne_of_beq_false undiverted)
          exact wakes.unchanged (Datapath.signals_takeEvent_of_ne different system.datapath)
      | work other budget =>
          have different : id ≠ other := Ne.symm (ne_of_beq_false undiverted)
          exact wakes.unchanged (Link.signals_work_of_ne different system.link budget _)
  | device op =>
      cases op with
      | complete other status =>
          have watched := fun same => attended (beq_iff_eq.2 same)
          exact (Datapath.wakes_finish watched wakes _ _).2.unchanged rfl
      | receive other flow len =>
          have watched := fun same => attended (beq_iff_eq.2 same)
          exact (Datapath.wakes_finish watched wakes _ _).2.unchanged rfl
      | completeSends other =>
          have watched := fun same => attended (beq_iff_eq.2 same)
          exact (Datapath.wakes_completeSendsUpTo _ watched wakes).unchanged rfl
      | attach other capacity =>
          rcases system.datapath.signals_attach other id capacity with same | ⟨absent, put⟩
          · exact wakes.unchanged same
          · have attached := wakes.attach absent capacity
            rw [← put] at attached
            exact attached.unchanged rfl
      | detach other =>
          have different : id ≠ other := Ne.symm (ne_of_beq_false undiverted)
          exact wakes.unchanged (Datapath.signals_detach_of_ne different system.datapath)
      | injectFaults count => exact wakes.unchanged rfl
      | setAffinity other cpu => exact wakes.unchanged rfl
      | setInterval other usecs => exact wakes.unchanged rfl
  | _ => exact wakes.unchanged rfl

/-- No run leaves completions without an event, unless the last drain used up its budget. -/
theorem wakes_run {operations : List Operation}
    (watched : system.Throughout (Watched id) operations)
    (wakes : (system.datapath.signals id).Wakes past) :
    ((system.run operations).datapath.signals id).Wakes
      (past ++ system.drainsOf id operations) := by
  induction operations generalizing system past with
  | nil => exact wakes.unchanged rfl
  | cons operation rest ih =>
      obtain ⟨first, later⟩ := watched
      have stepped := ih later (wakes_step first wakes)
      rw [List.append_assoc] at stepped
      exact stepped

/-- A worker does not sleep while completions of its queue wait and no event does. -/
structure KeepsAwake (id : QueueId) (system : System) (past : List DrainRecord) : Prop where
  /-- The channel holds no more events than it has room for. -/
  bounded : ∀ channel, system.datapath.channel? id = some channel →
    channel.waiting ≤ channel.capacity
  /-- When completions wait and no event does, the last drain used up its budget. -/
  usedUp : (system.datapath.device.ring id).completed ≠ [] →
    (∀ channel, system.datapath.channel? id = some channel → channel.waiting = 0) →
      ∃ record, past.getLast? = some record ∧ record.budget = some record.report.completed
  /-- When completions wait and the last drain did not use up its budget, an event is there for the
  worker to take. -/
  woken : (system.datapath.device.ring id).completed ≠ [] →
    (∀ record, past.getLast? = some record → record.budget ≠ some record.report.completed) →
      (system.datapath.takeEvent id).1 = true

/-- A channel with an event has one to take. -/
theorem takeEvent_of_waiting {datapath : Datapath} {channel : Channel}
    (listens : datapath.channel? id = some channel) (isOpen : channel.isOpen = true)
    (waits : 0 < channel.waiting) : (datapath.takeEvent id).1 = true := by
  unfold Datapath.takeEvent Channel.receive
  simp only [listens, isOpen, Bool.true_and, decide_eq_true waits, if_true]

/-- In every run from a fresh start that leaves the events of a queue to its drains, and in which
the queue is attended whenever a descriptor of it completes, a worker of the queue is kept awake. -/
theorem keepsAwake_run (blueprint : Blueprint) (operations : List Operation) (id : QueueId)
    (watched : (fresh blueprint).Throughout (Watched id) operations) :
    KeepsAwake id ((fresh blueprint).run operations)
      ((fresh blueprint).drainsOf id operations) := by
  have start : ((fresh blueprint).datapath.signals id).Wakes [] := by
    refine ⟨?_, fun left => absurd rfl left⟩
    intro channel listens
    cases (Datapath.channel?_eq_some_iff.1 listens).2
  obtain ⟨sound, wakes⟩ := wakes_run watched start
  constructor
  case bounded => exact fun channel listens => (sound channel listens).bounded
  case usedUp =>
    intro left silent
    rcases wakes left with ⟨channel, listens, waits⟩ | used
    · exact absurd (silent channel listens) (Nat.ne_of_gt waits)
    · exact used
  case woken =>
    intro left unused
    rcases wakes left with ⟨channel, listens, waits⟩ | ⟨record, last, used⟩
    · exact takeEvent_of_waiting listens (sound channel listens).isOpen waits
    · exact absurd used (unused record last)

/-- Three packets arrive while the channel has room for one event. A drain takes two of them, all of
its budget, and leaves one packet without an event. -/
theorem keepsAwake_run_of_one_event :
    let blueprint : Blueprint := {
      capacity := 2, maxFlows := 2, buffersPerNode := 4, ringCapacity := 4, listening := [0] }
    let operations : List Operation := [.registry (.register 0 0), .device (.attach 0 1),
      .link (.postReceive 0 3), .device (.receive 0 5 40), .device (.receive 0 5 40),
      .device (.receive 0 6 40), .link (.drain 0 (some 2))]
    let system := (fresh blueprint).run operations
    (fresh blueprint).Throughout (Watched 0) operations ∧
      KeepsAwake 0 system ((fresh blueprint).drainsOf 0 operations) ∧
      (system.datapath.device.ring 0).completed.length = 1 ∧
      (system.datapath.channel? 0).map (·.waiting) = some 0 :=
  ⟨by decide, keepsAwake_run _ _ 0 (by decide), by decide, by decide⟩

end System

end FlowSteer
