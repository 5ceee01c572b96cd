import FlowSteer.Proofs.Registry.Effects
import FlowSteer.Proofs.Registry.Ownership

/-!
# Every flow has one home

What the agreement of tables and directory means for the states of a run (`SingleHome`), and that
every run keeps it.

1. `System.ownership_run`: tables and directory agree after every run.
2. `System.singleHome_run`: hence a flow is on at most one queue, both structures name the same
   queue for it and count the same number of flows, and the branches of the registry that would
   repair a disagreement are dead.

An operation made of several operations on the registry goes through registries that other runs
reach too (`System.leads_step`), so that a branch which is dead after every run is dead inside
each operation as well.
-/

namespace FlowSteer

namespace Registry

/-- What the structures that say where a flow is have in common. -/
structure SingleHome (registry : Registry) : Prop where
  /-- A table keeps a flow under its own id. -/
  ownId : ∀ {id queue flow entry}, registry.queues.get? id = some queue →
    queue.flows.get? flow = some entry → entry.id = flow
  /-- No flow is in two tables. -/
  oneTable : ∀ {first second firstQueue secondQueue flow},
    registry.queues.get? first = some firstQueue →
    registry.queues.get? second = some secondQueue →
    firstQueue.flows.contains flow = true → secondQueue.flows.contains flow = true →
    first = second
  /-- The directory names a queue exactly when the table of the queue holds the flow. -/
  listed : ∀ {id flow}, registry.ownerOf flow = some id ↔
    ∃ queue, registry.queues.get? id = some queue ∧ queue.flows.contains flow = true
  /-- Looking through the tables finds what the directory names. -/
  located : ∀ flow, registry.ownerOf flow = registry.holderOf flow
  /-- The directory counts the flows of all tables. -/
  counted : registry.flowCount = registry.queues.total (·.flows.size)
  /-- A queue never takes in again a flow that the directory lists for it. -/
  neverTakenAgain : ∀ {id queue flow}, registry.queues.get? id = some queue →
    queue.flows.contains flow = false → registry.ownerOf flow ≠ some id
  /-- A move of one flow never finds the flow at its target. -/
  neverFoundAtTarget : ∀ flow source target other owner,
    (registry.moveFlow flow source target).1 ≠ .error (.ownedElsewhere other owner)
  /-- A move of all flows never merges a flow with one that the target holds. -/
  neverMerged : ∀ {source target sourceQueue targetQueue earlier moving later},
    registry.moveEnds source target = .ok (sourceQueue, targetQueue) →
    sourceQueue.flows.entries = earlier ++ moving :: later →
    (earlier.foldl FlowTable.absorb targetQueue.flows).contains moving.id = false

theorem Ownership.singleHome {registry : Registry} (own : Ownership registry) :
    SingleHome registry where
  ownId := fun found kept => own.stored_in found kept
  oneTable := by
    intro first second firstQueue secondQueue flow firstFound secondFound inFirst inSecond
    have firstOwns := (own.held_iff firstFound flow).1 inFirst
    have secondOwns := (own.held_iff secondFound flow).1 inSecond
    exact Option.some.inj (firstOwns.symm.trans secondOwns)
  listed := by
    intro id flow
    constructor
    · intro owned
      obtain ⟨queue, entry, found, kept⟩ := own.entry_of_owner owned
      exact ⟨queue, found, FlowTable.contains_iff.2 ⟨entry, kept⟩⟩
    · rintro ⟨queue, found, held⟩
      exact (own.held_iff found flow).1 held
  located := fun flow => (own.holderOf_eq flow).symm
  counted := own.flowCount_eq
  neverTakenAgain := own.unowned
  neverFoundAtTarget := own.moveFlow_ne
  neverMerged := fun ends order => own.absorb_absent ends order

end Registry

namespace System

theorem ownership_step {system : System} (own : system.registry.Ownership)
    (operation : Operation) : (system.step operation).registry.Ownership := by
  apply (system.leads_step operation).induct _ own
  intro registry op _ kept
  exact kept.registryOp _ op

/-- Tables and directory agree after every run. -/
theorem ownership_run (blueprint : Blueprint) (operations : List Operation) :
    ((fresh blueprint).run operations).registry.Ownership := by
  have kept : ∀ system operation, True → system.registry.Ownership →
      (step system operation).registry.Ownership :=
    fun _ operation _ own => ownership_step own operation
  exact run_induct kept (fun _ _ => trivial) (.empty blueprint.capacity blueprint.maxFlows)

/-- After every run each flow has one home. -/
theorem singleHome_run (blueprint : Blueprint) (operations : List Operation) :
    ((fresh blueprint).run operations).registry.SingleHome :=
  (ownership_run blueprint operations).singleHome

end System

end FlowSteer
