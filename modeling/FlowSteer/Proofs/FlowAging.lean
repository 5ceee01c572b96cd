import FlowSteer.Proofs.FlowOwnership
import FlowSteer.Proofs.Registry.Aging
import FlowSteer.Proofs.Registry.Histories

/-!
# Aging is exact, and absorbs itself

An aging pass at a time forgets the flows whose latest packet is further back than a timeout, in
their table and in the directory, and nothing else (`Registry.Forgets`). Two passes come to the one
at the later time, in whichever order the times are, and count together what it counts
(`Registry.AbsorbsAging`). A flow outlasts every pass up to the timeout after a packet of it, on
whichever queue it is by then (`Registry.Spares`).

1. `Registry.ages_play`: all of this holds after every history of a registry.
2. `System.ages_run`, `Plane.ages_run`: and so it does after every run of a system or of a control
   plane in which the clock does not go back.
-/

namespace FlowSteer

namespace Registry

/-- What an aging pass returns and changes. -/
structure Forgets (before : Registry) (time timeout : Nat) (aging : Nat × Registry) : Prop where
  /-- A table keeps an entry as it is unless its latest packet is too far back. From a packet still
  to come no time has passed. -/
  kept : ∀ {id flow entry}, aging.2.flow? id flow = some entry ↔
    before.flow? id flow = some entry ∧ time - entry.lastSeen ≤ timeout
  listed : ∀ {flow id}, aging.2.ownerOf flow = some id ↔ before.ownerOf flow = some id ∧
    ∃ entry, before.flow? id flow = some entry ∧ time - entry.lastSeen ≤ timeout
  /-- The number of flows that are too far back. -/
  returned : aging.1 = before.flows.countP fun owned => timeout < time - owned.flow.lastSeen
  removed : aging.1 + aging.2.flowCount = before.flowCount
  /-- All of a queue but its flows is as it was. -/
  queues : Keeps (fun queue => { queue with flows := queue.flows.clear }) before aging.2
  rest : aging.2 = { before with queues := aging.2.queues, directory := aging.2.directory }

/-- A pass and a second one with nothing in between. -/
structure AbsorbsAging (registry : Registry) (first second timeout : Nat) : Prop where
  state : ((registry.forgetIdle first timeout).2.forgetIdle second timeout).2 =
    (registry.forgetIdle (max first second) timeout).2
  counts : (registry.forgetIdle first timeout).1 +
      ((registry.forgetIdle first timeout).2.forgetIdle second timeout).1 =
    (registry.forgetIdle (max first second) timeout).1

/-- A pass leaves the entries of a flow, and its place in the directory. -/
structure Spares (registry : Registry) (flow : FlowId) (time timeout : Nat) : Prop where
  entries : ∀ id, (registry.forgetIdle time timeout).2.flow? id flow = registry.flow? id flow
  owner : (registry.forgetIdle time timeout).2.ownerOf flow = registry.ownerOf flow

/-- What aging does after a history. -/
structure Ages (start : Registry) (history : List TimedOp) : Prop where
  exact : ∀ time timeout,
    (start.play history).Forgets time timeout ((start.play history).forgetIdle time timeout)
  absorbs : ∀ first second timeout, (start.play history).AbsorbsAging first second timeout
  /-- A packet that was recorded at some time keeps its flow from all passes up to the timeout
  after this time. -/
  spares : ∀ {earlier later time id flow size direction},
    history = earlier ++ { time, op := .record id flow size direction } :: later →
    ((start.play earlier).record id flow size direction time).1 = .ok () →
    ∀ {pass timeout}, pass ≤ time + timeout → (start.play history).Spares flow pass timeout

variable {registry start : Registry} {history : List TimedOp}

theorem Ownership.forgets (own : registry.Ownership) (time timeout : Nat) :
    registry.Forgets time timeout (registry.forgetIdle time timeout) where
  kept := by
    intro id flow entry
    rw [flow?_forgetIdle, Option.filter_eq_some_iff, Bool.not_eq_true', Flow.isIdle_eq_false_iff]
  listed := by
    intro flow id
    rw [ownerOf_forgetIdle, Option.filter_eq_some_iff]
    apply and_congr_right
    intro owned
    obtain ⟨entry, found⟩ := Option.isSome_iff_exists.1 (own.listed.1 owned)
    rw [found, Option.any_some, Bool.not_eq_true', Flow.isIdle_eq_false_iff]
    constructor
    · exact fun recent => ⟨entry, rfl, recent⟩
    · rintro ⟨_, same, recent⟩
      cases same
      exact recent
  returned := registry.forgetIdle_fst time timeout
  removed := own.forgotten_add_left time timeout
  queues := by
    intro id
    rw [get?_queues_forgetIdle, Option.map_map]
    rfl
  rest := rfl

theorem Ownership.absorbsAging (own : registry.Ownership) (first second timeout : Nat) :
    registry.AbsorbsAging first second timeout where
  state := registry.forgetIdle_forgetIdle first second timeout
  counts := own.forgotten_forgetIdle first second timeout

/-- A pass does not reach flows that have been seen recently enough. -/
theorem SeenSince.spares {flow : FlowId} {since pass timeout : Nat}
    (seen : registry.SeenSince flow since) (recent : pass ≤ since + timeout) :
    registry.Spares flow pass timeout := by
  have awake : ∀ {id entry}, registry.flow? id flow = some entry →
      entry.isIdle pass timeout = false := by
    intro id entry found
    have packet := seen id entry found
    rw [Flow.isIdle_eq_false_iff]
    omega
  constructor
  · intro id
    rw [flow?_forgetIdle]
    cases found : registry.flow? id flow with
    | none => rfl
    | some entry => rw [Option.filter_some, awake found]; rfl
  · rw [ownerOf_forgetIdle]
    cases registry.ownerOf flow with
    | none => rfl
    | some owner =>
        cases found : registry.flow? owner flow with
        | none => simp [found]
        | some entry => simp [found, awake found]

/-- After every history aging is exact, absorbs itself and spares what was seen recently. -/
theorem ages_play (capacity maxFlows : Nat) (inOrder : InOrder history) :
    (empty capacity maxFlows).Ages history := by
  have own : ∀ history, ((empty capacity maxFlows).play history).Ownership :=
    fun history => (Ownership.empty capacity maxFlows).play history
  constructor
  case exact => exact fun time timeout => (own history).forgets time timeout
  case absorbs => exact fun first second timeout => (own history).absorbsAging first second timeout
  case spares =>
    rintro earlier later time id flow size direction rfl taken pass timeout recent
    have seen := (own earlier).seenSince_record taken
    have since : ∀ timed ∈ later, time ≤ timed.time :=
      (List.pairwise_cons.1 (List.pairwise_append.1 inOrder).2.1).1
    have ownAfter := (own earlier).registryOp time (.record id flow size direction)
    rw [play_append, play_cons]
    exact (ownAfter.seenSince_play seen since).spares recent

/-- One flow is moved before its latest packet, and outlasts the pass that forgets the other. -/
theorem ages_play_of_moved_flow :
    let history : List TimedOp := [⟨0, .register 0 0⟩, ⟨0, .register 1 0⟩, ⟨10, .record 0 7 60 .rx⟩,
      ⟨20, .record 1 8 60 .rx⟩, ⟨25, .moveFlow 7 0 1⟩, ⟨30, .record 1 7 60 .tx⟩]
    let registry := (empty 2 8).play history
    InOrder history ∧ (empty 2 8).Ages history ∧
      (registry.forgetIdle 40 10).1 = 1 ∧ (registry.forgetIdle 40 10).2.ownerOf 7 = some 1 ∧
      ((registry.forgetIdle 40 10).2.forgetIdle 41 10).1 = 1 ∧ (registry.forgetIdle 41 10).1 = 2 := by
  intro history registry
  have inOrder : InOrder history := by decide
  exact ⟨inOrder, ages_play 2 8 inOrder, by decide, by decide, by decide, by decide⟩

/-! ## Runs -/

/-- What aging does to a registry once packets of some flows have been recorded at some times. -/
structure AgesAfter (registry : Registry) (recorded : FlowId → Nat → Prop) : Prop where
  exact : ∀ time timeout, registry.Forgets time timeout (registry.forgetIdle time timeout)
  absorbs : ∀ first second timeout, registry.AbsorbsAging first second timeout
  spares : ∀ {flow time}, recorded flow time →
    ∀ {pass timeout}, pass ≤ time + timeout → registry.Spares flow pass timeout

theorem AgesAfter.of_seen {recorded : FlowId → Nat → Prop} (own : registry.Ownership)
    (seen : ∀ {flow time}, recorded flow time → registry.SeenSince flow time) :
    registry.AgesAfter recorded where
  exact := own.forgets
  absorbs := own.absorbsAging
  spares := fun packet _ _ recent => (seen packet).spares recent

end Registry

open Registry (AgesAfter HasHistory)

namespace System

/-- A packet of a flow is recorded by hand in a run when the clock has some time. -/
def Records (start : System) (operations : List Operation) (flow : FlowId) (time : Nat) : Prop :=
  ∃ earlier id size direction later,
    operations = earlier ++ .registry (.record id flow size direction) :: later ∧
      time = (start.run earlier).clock.now ∧
      ((start.run earlier).registry.record id flow size direction time).1 = .ok ()

theorem ages_run (blueprint : Blueprint) (operations : List Operation)
    (forward : (fresh blueprint).Throughout Forward operations) :
    ((fresh blueprint).run operations).registry.AgesAfter
      ((fresh blueprint).Records operations) := by
  refine .of_seen (ownership_run blueprint operations) ?_
  rintro flow time ⟨earlier, id, size, direction, later, rfl, rfl, taken⟩
  obtain ⟨-, passed, onward⟩ := throughout_append.1 forward
  have past := hasHistory_run (.refl _ _ _) passed onward
  rw [run_append, run_cons]
  exact past.seenSince_record (ownership_run blueprint earlier) taken

end System

namespace Plane

/-- A packet of a flow is recorded by hand in a run when the clock has some time. -/
def Records (start : Plane) (operations : List PlaneOp) (flow : FlowId) (time : Nat) : Prop :=
  ∃ earlier id size direction later,
    operations = earlier ++ .part (.registry (.record id flow size direction)) :: later ∧
      time = (start.run earlier).clock.now ∧
      ((start.run earlier).registry.record id flow size direction time).1 = .ok ()

variable {settings : Settings} {device : Device} {clock : Clock} {plane : Plane}

theorem ages_run (started : start settings device clock = .ok plane) (operations : List PlaneOp)
    (forward : plane.Forward operations) :
    (plane.run operations).registry.AgesAfter (plane.Records operations) := by
  refine .of_seen (ownership_run started operations) ?_
  rintro flow time ⟨earlier, id, size, direction, later, rfl, rfl, taken⟩
  obtain ⟨-, passed, onward⟩ := forward_append.1 forward
  have past := hasHistory_run (.refl _ _ _) passed onward
  have split : plane.run (earlier ++ .part (.registry (.record id flow size direction)) :: later) =
      ((plane.run earlier).step (.part (.registry (.record id flow size direction)))).run later :=
    List.foldl_append
  rw [split]
  exact past.seenSince_record (ownership_run started earlier) taken

end Plane

end FlowSteer
