import Mathlib.Data.List.Nodup
import FlowSteer.Proofs.Maps
import FlowSteer.Proofs.Registry.Views
import FlowSteer.Proofs.Runs

/-!
# Ownership of flows

Two structures say where a flow is: the flow tables of the queues, and the directory. They agree
(`Ownership`): a table keeps a flow under its own id, and the directory names a queue for a flow
exactly when the table of this queue holds the flow. Hence no flow is on two queues.

1. `Ownership.registryOp`: each operation on the registry keeps the agreement.
2. `Ownership.holderOf_eq`, `Ownership.flowCount_eq`: looking a flow up in the directory and
   looking through the tables give the same answer, for one flow and for their number.
3. `Ownership.unowned`, `Ownership.moveFlow_ne`, `Ownership.absorb_absent`: three branches that
   would repair a disagreement are never taken.
-/

namespace FlowSteer

namespace Registry

/-- What the table of a queue keeps of a flow. -/
def flow? (registry : Registry) (id : QueueId) (flow : FlowId) : Option Flow :=
  (registry.queues.get? id).bind (·.flows.get? flow)

/-- Flow tables and directory agree. -/
structure Ownership (registry : Registry) : Prop where
  /-- A table keeps a flow under its own id. -/
  stored : ∀ {id flow entry}, registry.flow? id flow = some entry → entry.id = flow
  /-- The directory names the queue whose table holds the flow. -/
  listed : ∀ {id flow}, registry.ownerOf flow = some id ↔ (registry.flow? id flow).isSome

variable {registry before after : Registry}

/-! ## Entries -/

theorem flow?_of_get? {id : QueueId} {queue : Queue} (found : registry.queues.get? id = some queue)
    (flow : FlowId) : registry.flow? id flow = queue.flows.get? flow := by
  rw [flow?, found, Option.bind_some]

theorem flow?_putQueue (registry : Registry) (id other : QueueId) (queue : Queue)
    (flow : FlowId) :
    (registry.putQueue id queue).flow? other flow =
      if other = id then queue.flows.get? flow else registry.flow? other flow := by
  rw [flow?, get?_putQueue]
  split <;> rfl

theorem flow?_of_keeps (same : Keeps Queue.flows before after) (id : QueueId) (flow : FlowId) :
    after.flow? id flow = before.flow? id flow := by
  have tables : ∀ registry : Registry, registry.flow? id flow =
      ((registry.queues.get? id).map Queue.flows).bind (·.get? flow) := by
    intro registry
    rw [Option.bind_map]
    rfl
  rw [tables, tables, same id]

theorem holds_eq_any (registry : Registry) (test : Flow → Bool) (flow : FlowId) (id : QueueId) :
    registry.holds test flow id = (registry.flow? id flow).any test := rfl

theorem get?_queues_forgetIdle (registry : Registry) (time timeout : Nat) (id : QueueId) :
    (registry.forgetIdle time timeout).2.queues.get? id = (registry.queues.get? id).map fun queue =>
      { queue with flows := queue.flows.forgetIdle time timeout } :=
  registry.queues.get?_map _ id

/-- A table keeps the flows that are not idle. -/
theorem flow?_forgetIdle (registry : Registry) (time timeout : Nat) (id : QueueId)
    (flow : FlowId) :
    (registry.forgetIdle time timeout).2.flow? id flow =
      (registry.flow? id flow).filter fun entry => !entry.isIdle time timeout := by
  rw [flow?, get?_queues_forgetIdle, flow?]
  cases registry.queues.get? id with
  | none => rfl
  | some queue => exact queue.flows.get?_forgetIdle time timeout flow

/-- The directory keeps the flows whose entry is not idle. -/
theorem ownerOf_forgetIdle (registry : Registry) (time timeout : Nat) (flow : FlowId) :
    (registry.forgetIdle time timeout).2.ownerOf flow = (registry.ownerOf flow).filter fun owner =>
      !(registry.flow? owner flow).any (·.isIdle time timeout) :=
  registry.directory.get?_filter _ flow

namespace Ownership

/-! ## What the agreement says -/

theorem entry_of_owner (own : Ownership registry) {id : QueueId} {flow : FlowId}
    (owned : registry.ownerOf flow = some id) :
    ∃ queue entry, registry.queues.get? id = some queue ∧ queue.flows.get? flow = some entry := by
  obtain ⟨entry, found⟩ := Option.isSome_iff_exists.1 (own.listed.1 owned)
  obtain ⟨queue, present, kept⟩ := Option.bind_eq_some_iff.1 found
  exact ⟨queue, entry, present, kept⟩

/-- A flow is in the table of its owner and in no other. -/
theorem held_iff (own : Ownership registry) {id : QueueId} {queue : Queue}
    (found : registry.queues.get? id = some queue) (flow : FlowId) :
    queue.flows.contains flow = true ↔ registry.ownerOf flow = some id := by
  rw [own.listed, flow?_of_get? found]
  rfl

/-- A flow that the table of a queue lacks is not listed for the queue. -/
theorem unowned (own : Ownership registry) {id : QueueId} {queue : Queue} {flow : FlowId}
    (found : registry.queues.get? id = some queue) (absent : queue.flows.contains flow = false) :
    registry.ownerOf flow ≠ some id := by
  intro owned
  rw [← own.held_iff found, absent] at owned
  cases owned

/-- A flow is known to its owner and to no other queue. -/
theorem flow?_of_ne (own : Ownership registry) {flow : FlowId} {owner id : QueueId}
    (owned : registry.ownerOf flow = some owner) (different : id ≠ owner) :
    registry.flow? id flow = none := by
  rw [← Option.not_isSome_iff_eq_none, ← own.listed, owned]
  exact fun same => different (Option.some.inj same).symm

theorem stored_in (own : Ownership registry) {id : QueueId} {queue : Queue}
    (found : registry.queues.get? id = some queue) {flow : FlowId} {entry : Flow}
    (kept : queue.flows.get? flow = some entry) : entry.id = flow :=
  own.stored ((flow?_of_get? found flow).trans kept)

/-! ## Operations that leave flows where they are -/

theorem of_same (own : Ownership before) (directory : after.directory = before.directory)
    (same : ∀ id flow, (after.flow? id flow).map (·.id) = (before.flow? id flow).map (·.id)) :
    Ownership after := by
  constructor
  · intro id flow entry found
    have shown := same id flow
    rw [found, Option.map_some] at shown
    obtain ⟨old, present, equal⟩ := Option.map_eq_some_iff.1 shown.symm
    rw [← equal]
    exact own.stored present
  · intro id flow
    have shown := congrArg Option.isSome (same id flow)
    rw [Option.isSome_map, Option.isSome_map] at shown
    rw [shown, ownerOf, directory]
    exact own.listed

theorem of_keeps (own : Ownership before) (directory : after.directory = before.directory)
    (same : Keeps Queue.flows before after) : Ownership after := by
  apply own.of_same directory
  intro id flow
  rw [flow?_of_keeps same]

/-- One queue is changed, but not its table. -/
theorem adjust (own : Ownership before) {id : QueueId} {change : Queue → Queue}
    (result : after = before.adjust id change)
    (same : ∀ queue, (change queue).flows = queue.flows) : Ownership after := by
  rw [result]
  exact own.of_keeps (directory_adjust before id change) (keeps_adjust same id)

/-- The table of one queue is changed, but not which flows it holds. -/
theorem putQueue (own : Ownership registry) {id : QueueId} {queue changed : Queue}
    (found : registry.queues.get? id = some queue)
    (same : ∀ flow, (changed.flows.get? flow).map (·.id) = (queue.flows.get? flow).map (·.id)) :
    Ownership (registry.putQueue id changed) := by
  apply own.of_same (directory_putQueue registry id changed)
  intro other flow
  rw [flow?_putQueue]
  split
  · rename_i equal
    rw [equal, flow?_of_get? found, same]
  · rfl

/-- Changing the traffic of a flow does not change which flows a table holds. -/
theorem modify (own : Ownership registry) {id : QueueId} {queue changed : Queue} {flow : FlowId}
    (change : Flow → Flow) (found : registry.queues.get? id = some queue)
    (keepsId : ∀ entry, (change entry).id = entry.id)
    (table : changed.flows = queue.flows.modify flow change) :
    Ownership (registry.putQueue id changed) := by
  apply own.putQueue found
  intro other
  rw [table, FlowTable.get?_modify]
  split
  · rw [Option.map_map]
    exact Option.map_congr fun entry _ => keepsId entry
  · rfl

/-! ## Taking in and moving flows -/

/-- A queue takes in a flow that no queue owns. -/
theorem takeIn (own : Ownership registry) {id : QueueId} {queue : Queue} {flow : FlowId}
    (found : registry.queues.get? id = some queue) (fresh : registry.ownerOf flow = none)
    (now : Nat) :
    Ownership { registry.putQueue id (queue.takeIn flow now) with
      directory := registry.directory.insert flow id } := by
  have entries : ∀ other key,
      (registry.putQueue id (queue.takeIn flow now)).flow? other key =
        if other = id ∧ key = flow then some (.fresh flow now)
        else registry.flow? other key := by
    intro other key
    rw [flow?_putQueue]
    by_cases same : other = id
    · rw [if_pos same, same, flow?_of_get? found, Queue.get?_takeIn]
      by_cases equal : key = flow
      · rw [if_pos equal, if_pos ⟨rfl, equal⟩]
      · rw [if_neg equal, if_neg fun both => equal both.2]
    · rw [if_neg same, if_neg fun both => same both.1]
  have owners : ∀ key, (registry.directory.insert flow id).get? key =
      if key = flow then some id else registry.ownerOf key :=
    fun key => IdMap.get?_insert _ _ _ _
  constructor
  · intro other key entry present
    have shown := (entries other key).symm.trans present
    split at shown
    · rename_i both
      cases shown
      exact both.2.symm
    · exact own.stored shown
  · intro other key
    show (registry.directory.insert flow id).get? key = some other ↔
      ((registry.putQueue id (queue.takeIn flow now)).flow? other key).isSome
    rw [entries, owners]
    by_cases equal : key = flow
    · subst equal
      have nowhere : (registry.flow? other key).isSome = false := by
        rw [← Bool.not_eq_true, ← own.listed, fresh]
        simp
      by_cases same : other = id
      · simp [same]
      · simp [same, Ne.symm same, nowhere]
    · rw [if_neg equal, if_neg fun both => equal both.2]
      exact own.listed

/-- The flows of a table by their ids, as a look-up finds them. -/
theorem find?_entries (own : Ownership registry) {id : QueueId} {queue : Queue}
    (found : registry.queues.get? id = some queue) (flow : FlowId) :
    queue.flows.entries.find? (·.id == flow) = queue.flows.get? flow := by
  have kept : ∀ pair ∈ queue.flows.flows.toList, pair.2.id = pair.1 := by
    intro pair member
    exact own.stored_in found (IdMap.get?_eq_some_iff.2 member)
  show (queue.flows.flows.toList.map Prod.snd).find? (·.id == flow) =
    queue.flows.flows.toList.lookup flow
  generalize queue.flows.flows.toList = pairs at kept
  induction pairs with
  | nil => rfl
  | cons pair rest ih =>
      have keptFirst := kept pair List.mem_cons_self
      rw [List.map_cons, List.find?_cons, keptFirst, IdMap.lookup_cons_eq_ite,
        ih fun later member => kept later (List.mem_cons_of_mem _ member)]
      by_cases same : pair.1 = flow
      · rw [beq_iff_eq.2 same, if_pos same.symm]
      · rw [beq_eq_false_iff_ne.2 same, if_neg (Ne.symm same)]

theorem ids_entries (own : Ownership registry) {id : QueueId} {queue : Queue}
    (found : registry.queues.get? id = some queue) :
    queue.flows.entries.map (·.id) = queue.flows.flows.ids := by
  show (queue.flows.flows.toList.map Prod.snd).map (·.id) = queue.flows.flows.toList.map Prod.fst
  rw [List.map_map]
  apply List.map_congr_left
  intro pair member
  exact own.stored_in found (IdMap.get?_eq_some_iff.2 member)

theorem distinct_entries (own : Ownership registry) {id : QueueId} {queue : Queue}
    (found : registry.queues.get? id = some queue) :
    (queue.flows.entries.map (·.id)).Nodup := by
  rw [own.ids_entries found]
  exact queue.flows.flows.ids_nodup

/-- No flow of one queue is in the table of another. -/
theorem absent_of_ne (own : Ownership registry) {source target : QueueId}
    {sourceQueue targetQueue : Queue} (different : source ≠ target)
    (sourceFound : registry.queues.get? source = some sourceQueue)
    (targetFound : registry.queues.get? target = some targetQueue) {flow : FlowId}
    (held : sourceQueue.flows.contains flow = true) : targetQueue.flows.contains flow = false := by
  rw [← Bool.not_eq_true, own.held_iff targetFound, (own.held_iff sourceFound flow).1 held]
  exact fun same => different (Option.some.inj same)

theorem contains_of_mem_entries (own : Ownership registry) {id : QueueId} {queue : Queue}
    (found : registry.queues.get? id = some queue) {entry : Flow}
    (member : entry ∈ queue.flows.entries) : queue.flows.contains entry.id = true := by
  have listed : entry.id ∈ queue.flows.flows.ids := by
    rw [← own.ids_entries found]
    exact List.mem_map_of_mem member
  exact IdMap.contains_iff.2 listed

theorem absent_at_target (own : Ownership registry) {source target : QueueId}
    {sourceQueue targetQueue : Queue}
    (ends : registry.moveEnds source target = .ok (sourceQueue, targetQueue)) {entry : Flow}
    (member : entry ∈ sourceQueue.flows.entries) :
    targetQueue.flows.contains entry.id = false := by
  obtain ⟨different, sourceFound, targetFound, -⟩ := moveEnds_eq_ok_iff.1 ends
  have held := own.contains_of_mem_entries sourceFound member
  exact own.absent_of_ne different sourceFound targetFound held

/-- The target of a move of all flows holds none of them when its turn comes. -/
theorem absorb_absent (own : Ownership registry) {source target : QueueId}
    {sourceQueue targetQueue : Queue}
    (ends : registry.moveEnds source target = .ok (sourceQueue, targetQueue))
    {earlier later : List Flow} {moving : Flow}
    (order : sourceQueue.flows.entries = earlier ++ moving :: later) :
    (earlier.foldl FlowTable.absorb targetQueue.flows).contains moving.id = false := by
  obtain ⟨-, sourceFound, -, -⟩ := moveEnds_eq_ok_iff.1 ends
  have distinct := own.distinct_entries sourceFound
  rw [order, List.map_append, List.map_cons, List.nodup_append] at distinct
  obtain ⟨distinctEarlier, -, apart⟩ := distinct
  have absent : ∀ entry ∈ sourceQueue.flows.entries,
      targetQueue.flows.contains entry.id = false :=
    fun _ member => own.absent_at_target ends member
  have absentEarlier : ∀ entry ∈ earlier, targetQueue.flows.contains entry.id = false := by
    intro entry member
    apply absent
    rw [order]
    exact List.mem_append_left _ member
  have absentMoving : targetQueue.flows.contains moving.id = false := by
    apply absent
    rw [order]
    exact List.mem_append_right _ List.mem_cons_self
  have notEarlier : earlier.find? (·.id == moving.id) = none := by
    rw [List.find?_eq_none]
    intro entry member same
    exact apart entry.id (List.mem_map_of_mem member) moving.id List.mem_cons_self
      (beq_iff_eq.1 same)
  rw [FlowTable.contains_eq_false_iff, FlowTable.get?_foldl_absorb distinctEarlier absentEarlier,
    notEarlier, Option.none_or]
  exact FlowTable.contains_eq_false_iff.1 absentMoving

/-- Both ends of a move, put back with other flows: where each flow is then. -/
theorem flow?_ends (registry : Registry) (source target : QueueId)
    (sourceQueue targetQueue : Queue) (left moved : FlowTable) (directory : IdMap QueueId)
    (id : QueueId) (flow : FlowId) :
    ({ (registry.putQueue source { sourceQueue with flows := left }).putQueue target
        { targetQueue with flows := moved } with directory } : Registry).flow? id flow =
      if id = target then moved.get? flow
      else if id = source then left.get? flow
      else registry.flow? id flow := by
  show ((registry.putQueue source { sourceQueue with flows := left }).putQueue target
    { targetQueue with flows := moved }).flow? id flow = _
  rw [flow?_putQueue, flow?_putQueue]

/-- A flow of which both ends of a move keep what they knew is where it was. -/
theorem flow?_ends_of_same {source target : QueueId} {sourceQueue targetQueue : Queue}
    (sourceFound : registry.queues.get? source = some sourceQueue)
    (targetFound : registry.queues.get? target = some targetQueue) {left moved : FlowTable}
    {flow : FlowId} (leftSame : left.get? flow = sourceQueue.flows.get? flow)
    (movedSame : moved.get? flow = targetQueue.flows.get? flow) (directory : IdMap QueueId)
    (id : QueueId) :
    ({ (registry.putQueue source { sourceQueue with flows := left }).putQueue target
        { targetQueue with flows := moved } with directory } : Registry).flow? id flow =
      registry.flow? id flow := by
  rw [flow?_ends, leftSame, movedSame]
  by_cases atTarget : id = target
  · rw [if_pos atTarget, atTarget, flow?_of_get? targetFound]
  · rw [if_neg atTarget]
    by_cases atSource : id = source
    · rw [if_pos atSource, atSource, flow?_of_get? sourceFound]
    · rw [if_neg atSource]

/-- Some flows move from one queue to another; the directory follows. -/
theorem move (own : Ownership registry) {source target : QueueId}
    {sourceQueue targetQueue : Queue}
    (ends : registry.moveEnds source target = .ok (sourceQueue, targetQueue))
    (moves : FlowId → Bool) {left moved : FlowTable} {directory : IdMap QueueId}
    (onlyHeld : ∀ flow, moves flow = true → sourceQueue.flows.contains flow = true)
    (leftLaw : ∀ flow, left.get? flow =
      if moves flow = true then none else sourceQueue.flows.get? flow)
    (movedLaw : ∀ flow, moved.get? flow =
      if moves flow = true then sourceQueue.flows.get? flow else targetQueue.flows.get? flow)
    (directoryLaw : ∀ flow, directory.get? flow =
      if moves flow = true then some target else registry.ownerOf flow) :
    Ownership { (registry.putQueue source { sourceQueue with flows := left }).putQueue target
      { targetQueue with flows := moved } with directory } := by
  obtain ⟨different, sourceFound, targetFound, -⟩ := moveEnds_eq_ok_iff.1 ends
  have entries := flow?_ends registry source target sourceQueue targetQueue left moved directory
  have stays : ∀ {flow}, ¬moves flow = true → ∀ id,
      ({ (registry.putQueue source { sourceQueue with flows := left }).putQueue target
        { targetQueue with flows := moved } with directory } : Registry).flow? id flow =
          registry.flow? id flow := by
    intro flow staying
    refine flow?_ends_of_same sourceFound targetFound ?_ ?_ directory
    · rw [leftLaw, if_neg staying]
    · rw [movedLaw, if_neg staying]
  constructor
  · intro id flow entry present
    by_cases moving : moves flow = true
    · rw [entries, movedLaw, leftLaw, if_pos moving, if_pos moving] at present
      split at present
      · exact own.stored_in sourceFound present
      · split at present
        · cases present
        · exact own.stored present
    · rw [stays moving] at present
      exact own.stored present
  · intro id flow
    show directory.get? flow = some id ↔ _
    rw [directoryLaw]
    by_cases moving : moves flow = true
    · rw [entries, movedLaw, leftLaw, if_pos moving, if_pos moving, if_pos moving]
      have held := onlyHeld flow moving
      have owned := (own.held_iff sourceFound flow).1 held
      by_cases atTarget : id = target
      · rw [if_pos atTarget, atTarget]
        exact iff_of_true rfl held
      · rw [if_neg atTarget]
        apply iff_of_false
        · exact fun same => atTarget (Option.some.inj same).symm
        · by_cases atSource : id = source
          · rw [if_pos atSource]
            exact Bool.false_ne_true
          · rw [if_neg atSource, own.flow?_of_ne owned atSource]
            exact Bool.false_ne_true
    · rw [if_neg moving, stays moving]
      exact own.listed

theorem moveFlow (own : Ownership registry) (flow : FlowId) (source target : QueueId) :
    Ownership (registry.moveFlow flow source target).2 := by
  rcases moveFlow_cases registry flow source target with
    ⟨error, result⟩ | ⟨sourceQueue, targetQueue, moving, ends, found, absent, result⟩
  · rw [result]
    exact own
  · rw [result]
    obtain ⟨-, sourceFound, -, -⟩ := moveEnds_eq_ok_iff.1 ends
    have named : moving.id = flow := own.stored_in sourceFound found
    apply own.move ends (· == flow)
    · intro other same
      rw [beq_iff_eq.1 same]
      exact FlowTable.contains_iff.2 ⟨moving, found⟩
    · intro other
      rw [FlowTable.get?_erase]
      simp only [beq_iff_eq]
    · intro other
      rw [FlowTable.get?_put, named]
      simp only [beq_iff_eq]
      split
      · rename_i same
        rw [same, found]
      · rfl
    · intro other
      rw [IdMap.get?_insert]
      simp only [beq_iff_eq]
      rfl

/-- A move of all flows moves each of them as it is. -/
theorem get?_absorbed (own : Ownership registry) {source target : QueueId}
    {sourceQueue targetQueue : Queue}
    (ends : registry.moveEnds source target = .ok (sourceQueue, targetQueue)) (flow : FlowId) :
    (sourceQueue.flows.entries.foldl FlowTable.absorb targetQueue.flows).get? flow =
      (sourceQueue.flows.get? flow).or (targetQueue.flows.get? flow) := by
  obtain ⟨-, sourceFound, -, -⟩ := moveEnds_eq_ok_iff.1 ends
  rw [FlowTable.get?_foldl_absorb (own.distinct_entries sourceFound)
    fun _ member => own.absent_at_target ends member, own.find?_entries sourceFound]

theorem moveAll (own : Ownership registry) (source target : QueueId) :
    Ownership (registry.moveAll source target).2 := by
  rcases moveAll_cases registry source target with
    ⟨error, result⟩ | ⟨sourceQueue, targetQueue, ends, result⟩
  · rw [result]
    exact own
  · rw [result]
    obtain ⟨-, sourceFound, -, -⟩ := moveEnds_eq_ok_iff.1 ends
    apply own.move ends sourceQueue.flows.contains
    · exact fun _ held => held
    · intro flow
      cases kept : sourceQueue.flows.get? flow with
      | none => simp
      | some entry => simp [FlowTable.contains_iff.2 ⟨entry, kept⟩]
    · intro flow
      rw [own.get?_absorbed ends]
      cases kept : sourceQueue.flows.get? flow with
      | none => simp [FlowTable.contains_eq_false_iff.2 kept]
      | some entry => simp [FlowTable.contains_iff.2 ⟨entry, kept⟩]
    · intro flow
      rw [IdMap.get?_insertAll_const, own.ids_entries sourceFound]
      simp only [← IdMap.contains_iff]
      rfl

/-! ## Forgetting flows -/

/-- Flows that pass a test leave all tables, and leave the directory with them. -/
theorem forget (own : Ownership before) (test : Flow → Bool)
    (entries : ∀ id flow, after.flow? id flow =
      (before.flow? id flow).filter fun entry => !test entry)
    (directory : ∀ flow, after.ownerOf flow =
      (before.ownerOf flow).filter fun owner => !before.holds test flow owner) :
    Ownership after := by
  constructor
  · intro id flow entry present
    rw [entries, Option.filter_eq_some_iff] at present
    exact own.stored present.1
  · intro id flow
    rw [directory, entries, Option.filter_eq_some_iff, own.listed, holds_eq_any]
    cases before.flow? id flow with
    | none => simp
    | some entry => cases passes : test entry <;> simp [passes]

theorem forgetIdle (own : Ownership registry) (time timeout : Nat) :
    Ownership (registry.forgetIdle time timeout).2 :=
  own.forget (·.isIdle time timeout) (registry.flow?_forgetIdle time timeout)
    (registry.ownerOf_forgetIdle time timeout)

theorem forgetAll (own : Ownership registry) : Ownership registry.forgetAll.2 := by
  apply own.forget fun _ => true
  · intro id flow
    show ((registry.queues.map fun _ queue =>
      { queue with flows := queue.flows.clear }).get? id).bind _ = _
    rw [IdMap.get?_map]
    cases registry.flow? id flow <;> cases registry.queues.get? id <;> rfl
  · exact fun flow => IdMap.get?_filter _ _ flow

/-! ## Every operation -/

theorem empty (capacity maxFlows : Nat) : Ownership (.empty capacity maxFlows) := by
  constructor
  · intro id flow entry present
    cases present
  · intro id flow
    exact iff_of_false (by rintro ⟨⟩) (by rintro ⟨⟩)

theorem register (own : Ownership registry) (id : QueueId) (node : NodeId) :
    Ownership (registry.register id node).2 := by
  rcases registry.register_cases id node with ⟨_, result⟩ | ⟨missing, result⟩
  · rw [result]
    exact own
  · rw [result]
    apply own.of_same (directory_putQueue registry id _)
    intro other flow
    rw [flow?_putQueue]
    split
    · rename_i same
      rw [same, flow?, missing]
      rfl
    · rfl

theorem record (own : Ownership registry) (id : QueueId) (flow : FlowId) (bytes : Nat)
    (direction : Direction) (now : Nat) :
    Ownership (registry.record id flow bytes direction now).2 := by
  rcases record_cases registry id flow bytes direction now with
    ⟨error, result⟩ | ⟨queue, found, _, result⟩ | ⟨queue, found, absent, _, _, owners, result⟩
  · rw [result]
    exact own
  · rw [result]
    exact own.modify (·.addPacket bytes now) found (fun _ => rfl) rfl
  · rw [result]
    have fresh : registry.ownerOf flow = none := owners.resolve_right (own.unowned found absent)
    -- The flow is taken in first, then its packet is counted.
    have taken := own.takeIn found fresh now
    have present : ({ registry.putQueue id (queue.takeIn flow now) with
        directory := registry.directory.insert flow id } : Registry).queues.get? id =
          some (queue.takeIn flow now) := by
      show (registry.putQueue id (queue.takeIn flow now)).queues.get? id = _
      rw [get?_putQueue, if_pos rfl]
    have counted := taken.modify (·.addPacket bytes now) present (fun _ => rfl)
      (Queue.flows_addPacket (queue.takeIn flow now) flow bytes direction now)
    have twice : (registry.queues.insert id (queue.takeIn flow now)).insert id
        ((queue.takeIn flow now).addPacket flow bytes direction now) =
          registry.queues.insert id ((queue.takeIn flow now).addPacket flow bytes direction now) :=
      IdMap.insert_insert _ _ _ _
    unfold Registry.putQueue at counted ⊢
    rwa [twice] at counted

theorem recordLatency (own : Ownership registry) (flow : FlowId) (latency : Nat) :
    Ownership (registry.recordLatency flow latency).2 := by
  rcases recordLatency_cases registry flow latency with
    ⟨error, result⟩ | ⟨owner, queue, _, found, _, result⟩
  · rw [result]
    exact own
  · rw [result]
    exact own.modify (·.addLatency latency) found (fun _ => rfl) rfl

/-- Each operation on the registry keeps tables and directory in agreement. -/
theorem registryOp (own : Ownership registry) (now : Nat) (op : RegistryOp) :
    Ownership (op.apply now registry) := by
  cases op with
  | register id node => exact own.register id node
  | record id flow bytes direction => exact own.record id flow bytes direction now
  | recordLatency flow latency => exact own.recordLatency flow latency
  | countError id direction =>
      exact own.adjust (updateQueue_snd registry id _) fun _ => rfl
  | countDrop id direction =>
      exact own.adjust (updateQueue_snd registry id _) fun _ => rfl
  | addWork id work => exact own.adjust (updateQueue_snd registry id _) fun _ => rfl
  | finishWork id work => exact own.adjust (finishWork_snd registry id work) fun _ => rfl
  | setStatus id status => exact own.adjust (setStatus_snd registry id status) fun _ => rfl
  | clearErrors id status => exact own.adjust (clearErrors_snd registry id status) fun _ => rfl
  | updateStatus id choose => exact own.adjust (updateStatus_snd registry id choose) fun _ => rfl
  | moveFlow flow source target => exact own.moveFlow flow source target
  | moveAll source target => exact own.moveAll source target
  | forgetIdle time timeout => exact own.forgetIdle time timeout
  | forgetAll => exact own.forgetAll
  | bindAll planner => exact own.of_keeps rfl (keeps_bind (fun _ _ => rfl) _)
  | rebalance planner => exact own.of_keeps rfl (keeps_bind (fun _ _ => rfl) _)

/-! ## One answer from both structures -/

/-- Looking through the tables finds the owner that the directory names. -/
theorem holderOf_eq (own : Ownership registry) (flow : FlowId) :
    registry.holderOf flow = registry.ownerOf flow := by
  unfold Registry.holderOf
  cases located : registry.queues.toList.find? fun entry => entry.2.flows.contains flow with
  | none =>
      rw [Option.map_none]
      cases owned : registry.ownerOf flow with
      | none => rfl
      | some owner =>
          obtain ⟨queue, entry, found, kept⟩ := own.entry_of_owner owned
          have held := List.find?_eq_none.1 located (owner, queue)
            (IdMap.get?_eq_some_iff.1 found)
          exact absurd (FlowTable.contains_iff.2 ⟨entry, kept⟩) held
  | some pair =>
      have found : registry.queues.get? pair.1 = some pair.2 :=
        IdMap.get?_eq_some_iff.2 (List.mem_of_find?_eq_some located)
      have held := List.find?_some located
      rw [Option.map_some, (own.held_iff found flow).1 held]

/-- The directory lists what the tables hold, each flow once. -/
theorem directory_perm (own : Ownership registry) :
    registry.directory.toList.Perm (registry.queues.toList.flatMap fun pair =>
      pair.2.flows.flows.ids.map fun flow => (flow, pair.1)) := by
  rw [List.perm_ext_iff_of_nodup]
  · rintro ⟨flow, id⟩
    rw [← IdMap.get?_eq_some_iff, List.mem_flatMap]
    constructor
    · intro owned
      obtain ⟨queue, entry, found, kept⟩ := own.entry_of_owner owned
      refine ⟨(id, queue), IdMap.get?_eq_some_iff.1 found, List.mem_map.2 ⟨flow, ?_, rfl⟩⟩
      exact IdMap.contains_iff.1 (FlowTable.contains_iff.2 ⟨entry, kept⟩)
    · rintro ⟨⟨other, queue⟩, present, listed⟩
      obtain ⟨held, member, same⟩ := List.mem_map.1 listed
      cases same
      exact (own.held_iff (IdMap.get?_eq_some_iff.2 present) flow).1 (IdMap.contains_iff.2 member)
  · exact registry.directory.toList_nodup
  · rw [List.nodup_flatMap]
    constructor
    · intro pair _
      exact pair.2.flows.flows.ids_nodup.map fun _ _ same => congrArg Prod.fst same
    · apply registry.queues.ascending.imp
      intro first second below entry inFirst inSecond
      obtain ⟨_, _, rfl⟩ := List.mem_map.1 inFirst
      obtain ⟨_, _, same⟩ := List.mem_map.1 inSecond
      exact Nat.ne_of_lt below (congrArg Prod.snd same).symm

/-- The directory counts as many flows as the tables hold together. -/
theorem flowCount_eq (own : Ownership registry) :
    registry.flowCount = registry.queues.total (·.flows.size) := by
  have counted := own.directory_perm.length_eq
  rw [List.length_flatMap] at counted
  rw [IdMap.total_eq_sum]
  show registry.directory.toList.length = ((registry.queues.toList.map Prod.snd).map _).sum
  rw [counted, List.map_map]
  congr 1
  apply List.map_congr_left
  intro pair _
  rw [List.length_map]
  exact List.length_map _

/-- A flow that its source holds moves as soon as the move is allowed. -/
theorem moveFlow_of_held (own : Ownership registry) {flow : FlowId} {source target : QueueId}
    {sourceQueue targetQueue : Queue} {moving : Flow}
    (ends : registry.moveEnds source target = .ok (sourceQueue, targetQueue))
    (found : sourceQueue.flows.get? flow = some moving) :
    (registry.moveFlow flow source target).1 = .ok () := by
  obtain ⟨different, sourceFound, targetFound, -⟩ := moveEnds_eq_ok_iff.1 ends
  have held : sourceQueue.flows.contains moving.id = true := by
    rw [own.stored_in sourceFound found]
    exact FlowTable.contains_iff.2 ⟨moving, found⟩
  have absent := own.absent_of_ne different sourceFound targetFound held
  unfold Registry.moveFlow
  simp only [ends, found, FlowTable.moveIn_of_absent absent]

/-- No move of one flow finds the flow at its target already. -/
theorem moveFlow_ne (own : Ownership registry) (flow : FlowId) (source target : QueueId)
    (other : FlowId) (owner : QueueId) :
    (registry.moveFlow flow source target).1 ≠ .error (.ownedElsewhere other owner) := by
  cases ends : registry.moveEnds source target with
  | error error =>
      unfold Registry.moveFlow
      rw [ends]
      intro same
      cases same
      exact moveEnds_ne ends
  | ok pair =>
      cases found : pair.1.flows.get? flow with
      | none =>
          unfold Registry.moveFlow
          simp [ends, found]
      | some moving =>
          rw [own.moveFlow_of_held ends found]
          nofun

end Ownership

end Registry

end FlowSteer
