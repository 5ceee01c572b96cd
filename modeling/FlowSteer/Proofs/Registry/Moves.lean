import FlowSteer.Proofs.Registry.Ownership

/-!
# A move of all flows

What moving all flows of a queue leaves behind, where tables and directory agree (`MovesAll`): the
table of the source is empty, the table of the target has the entries of both, each as it was, and
the directory names the target for every flow that moved. Nothing else changes.
-/

namespace FlowSteer

theorem FlowTable.capacity_absorb (table : FlowTable) (entry : Flow) :
    (table.absorb entry).capacity = table.capacity := by
  unfold absorb moveIn
  cases table.contains entry.id <;> rfl

theorem FlowTable.capacity_foldl_absorb (entries : List Flow) (table : FlowTable) :
    (entries.foldl absorb table).capacity = table.capacity := by
  induction entries generalizing table with
  | nil => rfl
  | cons entry rest ih => rw [List.foldl_cons, ih, capacity_absorb]

/-- Taking in flows changes nothing of a table but its flows. -/
theorem FlowTable.foldl_absorb_eq (entries : List Flow) (table : FlowTable) :
    entries.foldl absorb table =
      { table with flows := (entries.foldl absorb table).flows } :=
  congrArg (FlowTable.mk · _) (capacity_foldl_absorb entries table)

namespace Registry

/-- All flows of a queue have moved to another, and nothing else has changed. -/
structure MovesAll (before after : Registry) (source target : QueueId)
    (sourceQueue targetQueue : Queue) : Prop where
  sourceFound : before.queues.get? source = some sourceQueue
  targetFound : before.queues.get? target = some targetQueue
  different : source ≠ target
  inService : targetQueue.isFailed = false
  emptied : after.queues.get? source = some { sourceQueue with flows := sourceQueue.flows.clear }
  /-- The target has the entries of both tables. -/
  joined : ∃ flows : IdMap Flow,
    after.queues.get? target = some { targetQueue with flows := { targetQueue.flows with flows } } ∧
    flows.toList.Perm (targetQueue.flows.flows.toList ++ sourceQueue.flows.flows.toList)
  others : ∀ other, other ≠ source → other ≠ target →
    after.queues.get? other = before.queues.get? other
  directory : ∀ flow, after.ownerOf flow =
    if sourceQueue.flows.contains flow then some target else before.ownerOf flow

variable {registry : Registry} {source target : QueueId} {sourceQueue targetQueue : Queue}

namespace Ownership

/-- A target that takes in all flows of a source has the entries of both. -/
theorem absorbed_perm (own : Ownership registry)
    (ends : registry.moveEnds source target = .ok (sourceQueue, targetQueue)) :
    (sourceQueue.flows.entries.foldl FlowTable.absorb targetQueue.flows).flows.toList.Perm
      (targetQueue.flows.flows.toList ++ sourceQueue.flows.flows.toList) := by
  obtain ⟨different, sourceFound, targetFound, -⟩ := moveEnds_eq_ok_iff.1 ends
  have apart : ∀ {flow entry}, sourceQueue.flows.get? flow = some entry →
      targetQueue.flows.get? flow = none := by
    intro flow entry kept
    have held : sourceQueue.flows.contains flow = true := FlowTable.contains_iff.2 ⟨entry, kept⟩
    exact FlowTable.contains_eq_false_iff.1
      (own.absent_of_ne different sourceFound targetFound held)
  rw [List.perm_ext_iff_of_nodup]
  · rintro ⟨flow, entry⟩
    rw [List.mem_append, ← IdMap.get?_eq_some_iff, ← IdMap.get?_eq_some_iff,
      ← IdMap.get?_eq_some_iff]
    have absorbed := own.get?_absorbed ends flow
    unfold FlowTable.get? at absorbed apart
    rw [absorbed]
    cases kept : sourceQueue.flows.flows.get? flow with
    | none => simp
    | some moving => simp [apart kept]
  · exact IdMap.toList_nodup _
  · refine List.nodup_append.2 ⟨IdMap.toList_nodup _, IdMap.toList_nodup _, ?_⟩
    rintro ⟨flow, entry⟩ inTarget pair inSource rfl
    have absent := apart (IdMap.get?_eq_some_iff.2 inSource)
    have present : targetQueue.flows.get? flow = some entry := IdMap.get?_eq_some_iff.2 inTarget
    rw [absent] at present
    cases present

/-- A move of all flows that is not refused moves them all. -/
theorem movesAll (own : Ownership registry) {moved : Nat}
    (counted : (registry.moveAll source target).1 = .ok moved) :
    ∃ sourceQueue targetQueue, moved = sourceQueue.flows.size ∧
      MovesAll registry (registry.moveAll source target).2 source target sourceQueue
        targetQueue := by
  rcases moveAll_cases registry source target with
    ⟨error, result⟩ | ⟨sourceQueue, targetQueue, ends, result⟩
  · rw [result] at counted
    cases counted
  · rw [result] at counted ⊢
    obtain ⟨different, sourceFound, targetFound, inService⟩ := moveEnds_eq_ok_iff.1 ends
    have size : moved = sourceQueue.flows.size := by
      cases counted
      exact List.length_map _
    refine ⟨sourceQueue, targetQueue, size, ?_⟩
    constructor
    case sourceFound => exact sourceFound
    case targetFound => exact targetFound
    case different => exact different
    case inService => exact inService
    case emptied =>
      show ((registry.putQueue source _).putQueue target _).queues.get? source = _
      rw [get?_putQueue, if_neg different, get?_putQueue, if_pos rfl]
    case joined =>
      refine ⟨_, ?_, own.absorbed_perm ends⟩
      show ((registry.putQueue source _).putQueue target _).queues.get? target = _
      rw [get?_putQueue, if_pos rfl]
      have table := FlowTable.foldl_absorb_eq sourceQueue.flows.entries targetQueue.flows
      exact congrArg (fun flows => some { targetQueue with flows }) table
    case others =>
      intro other notSource notTarget
      show ((registry.putQueue source _).putQueue target _).queues.get? other = _
      rw [get?_putQueue, if_neg notTarget, get?_putQueue, if_neg notSource]
    case directory =>
      intro flow
      show (registry.directory.insertAll _).get? flow = _
      rw [IdMap.get?_insertAll_const, own.ids_entries sourceFound]
      simp only [← IdMap.contains_iff]
      rfl

end Ownership

end Registry

end FlowSteer
