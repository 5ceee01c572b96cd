import FlowSteer.Proofs.Failover.Replacement
import FlowSteer.Proofs.FlowOwnership
import FlowSteer.Proofs.Registry.Moves

/-!
# A remap is complete

What a remap leaves behind when it is not refused (`Completes`), whether a failure led to it or a
request by hand: all flows of the source are at the target as they were, the directory has
followed, the source is recovering and on record, and no other queue has changed.

1. `Completes.of_movedAll`: the step, for any state in which tables and directory agree.
2. `System.remap_run`: the same after every run. When no target was named, the target is the one of
   `LeastErrors`.
-/

namespace FlowSteer

namespace Failover

/-- All flows of a source have moved to a target, and the source is recovering and on record. -/
structure Completes (before after : Failover) (now : Nat) (source target : QueueId) (moved : Nat)
    (sourceQueue targetQueue : Queue) : Prop where
  sourceFound : before.registry.queues.get? source = some sourceQueue
  /-- The target is another queue, in service. -/
  candidate : before.registry.Candidate source target targetQueue
  counted : moved = sourceQueue.flows.size
  /-- The source has no flows and no errors, and is recovering. -/
  emptied : after.registry.queues.get? source = some { sourceQueue with
    status := .recovering
    counters := { sourceQueue.counters with rxErrors := 0, txErrors := 0 }
    flows := sourceQueue.flows.clear }
  /-- The target has the entries of both tables, each as it was. -/
  joined : ∃ flows : IdMap Flow,
    after.registry.queues.get? target =
      some { targetQueue with flows := { targetQueue.flows with flows } } ∧
    flows.toList.Perm (targetQueue.flows.flows.toList ++ sourceQueue.flows.flows.toList)
  others : ∀ other, other ≠ source → other ≠ target →
    after.registry.queues.get? other = before.registry.queues.get? other
  directory : ∀ flow, after.registry.ownerOf flow =
    if sourceQueue.flows.contains flow then some target else before.registry.ownerOf flow
  /-- So the target owns the flows of both tables. -/
  owned : ∀ flow,
    (targetQueue.flows.contains flow = true ∨ sourceQueue.flows.contains flow = true) →
    after.registry.ownerOf flow = some target
  /-- An outage of the source is open, and its recovery window starts now. -/
  recorded : ∃ outage, after.outages.get? source = some outage ∧ outage.lastFailure = now

variable {before noted after : Failover} {now : Nat} {source target id : QueueId} {moved : Nat}
  {change : Queue → Queue} {outage : Outage}

/-- Putting the source out of service first makes no difference to the outcome, as long as it
leaves alone what the remap leaves alone. -/
theorem Completes.of_movedAll (own : before.registry.Ownership)
    (notes : before.Notes noted source change outage) (dated : outage.lastFailure = now)
    (hidden : ∀ queue, (change queue).clearErrors .recovering = queue.clearErrors .recovering)
    (counted : (noted.registry.moveAll source target).1 = .ok moved) (cause : RemapCause)
    (time : Nat) :
    ∃ sourceQueue targetQueue, Completes before (noted.movedAll source target moved cause time)
      now source target moved sourceQueue targetQueue := by
  have registry : noted.registry = before.registry.adjust source change :=
    congrArg Failover.registry (notes_iff.1 notes).2
  have sameFlows : ∀ queue, (change queue).flows = queue.flows := by
    intro queue
    show ((change queue).clearErrors .recovering).flows = (queue.clearErrors .recovering).flows
    rw [hidden]
  have notedOwn : noted.registry.Ownership := own.adjust registry sameFlows
  obtain ⟨sourceQueue, found, changed⟩ := notes.changed
  obtain ⟨failedQueue, targetQueue, size, moves⟩ := notedOwn.movesAll counted
  obtain rfl : change sourceQueue = failedQueue :=
    Option.some.inj (changed.symm.trans moves.sourceFound)
  have targetFound : before.registry.queues.get? target = some targetQueue := by
    rw [← notes.otherQueues target moves.different.symm]
    exact moves.targetFound
  have result : (noted.movedAll source target moved cause time).registry =
      (noted.registry.moveAll source target).2.adjust source (·.clearErrors .recovering) :=
    Registry.clearErrors_snd _ source .recovering
  have directory : ∀ flow, (noted.movedAll source target moved cause time).registry.ownerOf flow =
      if sourceQueue.flows.contains flow then some target else before.registry.ownerOf flow := by
    intro flow
    have sameOwner : noted.registry.ownerOf flow = before.registry.ownerOf flow := by
      rw [registry]
      rfl
    rw [result, ← sameOwner, ← sameFlows]
    exact moves.directory flow
  refine ⟨sourceQueue, targetQueue, ?_⟩
  constructor
  case sourceFound => exact found
  case candidate => exact ⟨targetFound, moves.different.symm, moves.inService⟩
  case counted => rw [size, sameFlows]
  case emptied =>
    rw [result, Registry.get?_adjust, if_pos rfl, moves.emptied, Option.map_some, sameFlows]
    -- Both sides are the source with errors cleared, and then with its flows cleared.
    exact congrArg (fun queue => some { queue with flows := sourceQueue.flows.clear })
      (hidden sourceQueue)
  case joined =>
    obtain ⟨flows, joined, entries⟩ := moves.joined
    refine ⟨flows, ?_, entries.trans ?_⟩
    · rw [result, Registry.get?_adjust, if_neg moves.different.symm, joined]
    · rw [sameFlows]
  case others =>
    intro other notSource notTarget
    rw [result, Registry.get?_adjust, if_neg notSource, moves.others other notSource notTarget,
      notes.otherQueues other notSource]
  case directory => exact directory
  case owned =>
    intro flow held
    rw [directory]
    split
    · rfl
    · rename_i notMoved
      refine own.listed.2 ?_
      rw [Registry.flow?_of_get? targetFound]
      exact held.resolve_right notMoved
  case recorded => exact ⟨outage, notes.recorded, dated⟩

/-- The target of a remap is the one that is named, or else the one with the fewest errors. -/
theorem target_of_remapTarget {target? : Option QueueId}
    (notes : before.Notes noted source change outage)
    (chosen : noted.remapTarget source target? = .ok target) :
    (∀ named, target? = some named → target = named) ∧
      (target? = none → ∃ targetQueue, before.registry.LeastErrors source target targetQueue) := by
  cases target? with
  | some named =>
      cases chosen
      refine ⟨fun _ same => Option.some.inj same, ?_⟩
      intro unnamed
      cases unnamed
  | none =>
      obtain ⟨targetQueue, least⟩ := replacement_eq_ok_iff.1 chosen
      refine ⟨?_, fun _ => ⟨targetQueue, least.congr notes.otherQueues⟩⟩
      intro named isNamed
      cases isNamed

end Failover

namespace System

/-- After every run, a remap that is not refused is complete. It was asked for by a failure, which
names no target, or by hand. -/
theorem remap_run (blueprint : Blueprint) (operations : List Operation) {id source target : QueueId}
    {target? : Option QueueId} {moved : Nat} {after : Failover}
    (asked : target? = none ∧
        ((fresh blueprint).run operations).failover.handleFailure id
          ((fresh blueprint).run operations).clock.now =
            (.ok (.remapped source target moved), after) ∨
      ((fresh blueprint).run operations).failover.remapByHand id target?
        ((fresh blueprint).run operations).clock.now =
          (.ok (.remapped source target moved), after)) :
    source = id ∧
      (∀ named, target? = some named → target = named) ∧
      (target? = none → ∃ targetQueue,
        ((fresh blueprint).run operations).registry.LeastErrors source target targetQueue) ∧
      ∃ sourceQueue targetQueue, Failover.Completes ((fresh blueprint).run operations).failover
        after ((fresh blueprint).run operations).clock.now source target moved sourceQueue
        targetQueue := by
  have own := ownership_run blueprint operations
  generalize (fresh blueprint).run operations = system at asked own ⊢
  obtain ⟨rfl, failure⟩ | byHand := asked
  · rcases system.failover.handleFailure_cases id system.clock.now with
      ⟨_, result⟩ | ⟨queue, found, ⟨_, result⟩ | ⟨_, _, result⟩ | ⟨_, _, _, result⟩ |
        ⟨_, _, _, _, chosen, counted, result⟩⟩
    · cases result.symm.trans failure
    · cases result.symm.trans failure
    · cases result.symm.trans failure
    · cases result.symm.trans failure
    · cases result.symm.trans failure
      have notes := Failover.Notes.noteFailure ⟨queue, found⟩ system.clock.now .failed
      obtain ⟨named, least⟩ := Failover.target_of_remapTarget notes chosen
      obtain ⟨sourceQueue, targetQueue, completes⟩ := Failover.Completes.of_movedAll own notes
        (Failover.lastFailure_afterFailure system.failover id _) (fun _ => rfl) counted .automatic
        system.clock.now
      exact ⟨rfl, named, least, sourceQueue, targetQueue, { completes with }⟩
  · rcases system.failover.remapByHand_cases id target? system.clock.now with
      ⟨_, _, result⟩ | ⟨_, _, result⟩ | ⟨checked, _, _, chosen, counted, result⟩
    · cases result.symm.trans byHand
    · cases result.symm.trans byHand
    · cases result.symm.trans byHand
      have notes := Failover.Notes.noteManual (Failover.source_of_checkRemap checked)
        system.clock.now
      obtain ⟨named, least⟩ := Failover.target_of_remapTarget notes chosen
      obtain ⟨sourceQueue, targetQueue, completes⟩ := Failover.Completes.of_movedAll own notes
        (Failover.lastFailure_afterManual system.failover id _) (fun _ => rfl) counted .manual
        system.clock.now
      exact ⟨rfl, named, least, sourceQueue, targetQueue, completes⟩

/-- A queue with two flows, remapped by a failure to the other queue without errors, and by hand to
the one with an error. -/
theorem remap_run_of_two_flows :
    let system := (fresh {
        capacity := 4, maxFlows := 8, buffersPerNode := 4, ringCapacity := 3 }).run
      [.registry (.register 0 0), .registry (.register 1 0), .registry (.register 2 0),
        .registry (.record 1 5 60 .rx), .registry (.record 1 6 70 .tx),
        .registry (.record 2 7 80 .rx), .registry (.countError 0 .rx), .advance 10]
    (∃ after sourceQueue targetQueue,
      system.failover.handleFailure 1 system.clock.now = (.ok (.remapped 1 2 2), after) ∧
      Failover.Completes system.failover after system.clock.now 1 2 2 sourceQueue targetQueue) ∧
    ∃ after sourceQueue targetQueue,
      system.failover.remapByHand 1 (some 0) system.clock.now =
        (.ok (.remapped 1 0 2), after) ∧
      Failover.Completes system.failover after system.clock.now 1 0 2 sourceQueue
        targetQueue := by
  intro system
  have failure : (system.failover.handleFailure 1 system.clock.now).1 =
      .ok (.remapped 1 2 2) := by decide
  have byHand : (system.failover.remapByHand 1 (some 0) system.clock.now).1 =
      .ok (.remapped 1 0 2) := by decide
  obtain ⟨-, -, -, sourceQueue, targetQueue, completes⟩ :=
    remap_run _ _ (.inl ⟨rfl, Prod.ext failure rfl⟩)
  obtain ⟨-, -, -, sameQueue, namedQueue, completesByHand⟩ :=
    remap_run _ _ (.inr (Prod.ext byHand rfl))
  exact ⟨⟨_, sourceQueue, targetQueue, Prod.ext failure rfl, completes⟩,
    ⟨_, sameQueue, namedQueue, Prod.ext byHand rfl, completesByHand⟩⟩

end System

end FlowSteer
