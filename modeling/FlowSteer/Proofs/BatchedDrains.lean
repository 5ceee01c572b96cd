import FlowSteer.Proofs.Link.Batches

/-!
# Draining in batches

A completion worker drains its queue within a budget, again and again as long as a drain used up the
budget. When every completion is pending work, this comes to the same as one drain:

1. `Link.drain_add`: two drains in a row are one drain within both budgets. Registry, buffers,
   device and statistics are the same in the end, and the reports add up.
2. `Batches`: the loop of the worker without a bound on its rounds, with the sum of its reports.
   `Batches.unique`: a loop that ends ends in one way.
3. `Link.batches_end`: the loop ends, with what one drain without a budget reports and leaves.
4. `Link.drainsInBatches`: both together, for every budget but zero.
-/

namespace FlowSteer

/-! ## Adding reports -/

namespace DrainReport

/-- Reports are added field by field. -/
instance : Add DrainReport where
  add first second := {
    events := first.events + second.events
    completed := first.completed + second.completed
    rxPackets := first.rxPackets + second.rxPackets
    txCompletions := first.txCompletions + second.txCompletions
    errors := first.errors + second.errors
    dropped := first.dropped + second.dropped }

theorem of_append (events later : Nat) (completions rest : List Completion) :
    of (events + later) (completions ++ rest) = of events completions + of later rest := by
  unfold of
  simp only [List.length_append, List.countP_append]
  rfl

end DrainReport

/-! ## The loop -/

/-- The loop of a completion worker over one queue, from a link to the link where it ends, with the
sum of its reports. It goes on as long as a drain used up the budget. -/
inductive Batches (id : QueueId) (budget now : Nat) : Link → DrainReport → Link → Prop where
  | again {link middle after : Link} {report rest : DrainReport}
      (drained : link.drain id (some budget) now = (.ok report, middle))
      (full : report.completed = budget) (later : Batches id budget now middle rest after) :
      Batches id budget now link (report + rest) after
  | last {link after : Link} {report : DrainReport}
      (drained : link.drain id (some budget) now = (.ok report, after))
      (short : report.completed ≠ budget) : Batches id budget now link report after
  | refused {link after : Link} {error : ControlError}
      (drained : link.drain id (some budget) now = (.error error, after)) :
      Batches id budget now link {} after

/-- A loop that ends ends in one way. -/
theorem Batches.unique {id : QueueId} {budget now : Nat} {link after other : Link}
    {total sum : DrainReport} (first : Batches id budget now link total after)
    (second : Batches id budget now link sum other) : total = sum ∧ after = other := by
  induction first generalizing sum other with
  | again drained full later ih =>
      cases second with
      | again same _ more =>
          cases drained.symm.trans same
          obtain ⟨rfl, rfl⟩ := ih more
          exact ⟨rfl, rfl⟩
      | last same short =>
          cases drained.symm.trans same
          exact absurd full short
      | refused same => cases drained.symm.trans same
  | last drained short =>
      cases second with
      | again same full _ =>
          cases drained.symm.trans same
          exact absurd full short
      | last same _ =>
          cases drained.symm.trans same
          exact ⟨rfl, rfl⟩
      | refused same => cases drained.symm.trans same
  | refused drained =>
      cases second with
      | again same _ _ => cases drained.symm.trans same
      | last same _ => cases drained.symm.trans same
      | refused same =>
          cases drained.symm.trans same
          exact ⟨rfl, rfl⟩

namespace Link

variable {link : Link} {id : QueueId} {budget : Nat}

/-! ## Drains without a budget -/

theorem drain_none (link : Link) (id : QueueId) (now : Nat) :
    link.drain id none now = link.drain id (some (link.backlog id)) now := by
  unfold drain
  simp only [ring_takeEvents, Option.getD_none, Option.getD_some]
  rfl

/-- A budget that is not used up makes no difference. -/
theorem drain_of_le (backed : link.Backed id) (enough : link.backlog id ≤ budget) (now : Nat) :
    link.drain id (some budget) now = link.drain id none now := by
  have same : link.collected id (some budget) = link.collected id none :=
    (List.take_of_length_le enough).trans List.take_length.symm
  have withBudget := drain_snd backed (some budget) now
  have without := drain_snd backed none now
  obtain ⟨queue, found, -⟩ := backed
  refine Prod.ext ?_ ?_
  · rw [drain_fst found, drain_fst found, same]
  · rw [withBudget, without, same]

/-! ## Two drains -/

/-- Two drains in a row report together what one drain within both budgets reports, and lead to
where it leads. -/
theorem drain_add (backed : link.Backed id) (first second now : Nat) :
    ∃ (report rest : DrainReport) (middle after : Link),
      link.drain id (some first) now = (.ok report, middle) ∧
        middle.drain id (some second) now = (.ok rest, after) ∧
        link.drain id (some (first + second)) now = (.ok (report + rest), after) := by
  have later := drain_drain backed first second now
  obtain ⟨queue, found, -⟩ := backed
  refine ⟨_, _, _, _, Prod.ext (drain_fst found (some first) now) rfl, later, Prod.ext ?_ rfl⟩
  rw [drain_fst found, ← DrainReport.of_append, Nat.add_zero]
  exact congrArg (fun completions => Except.ok (DrainReport.of _ completions)) List.take_add

/-! ## The whole loop -/

/-- What is reported as completed is what the budget allows of the completions. -/
theorem completed_of_drain {link after : Link} {report : DrainReport} {now : Nat}
    (backed : link.Backed id) (drained : link.drain id (some budget) now = (.ok report, after)) :
    report.completed = min budget (link.backlog id) := by
  obtain ⟨queue, found, -⟩ := backed
  have answer := drain_fst found (some budget) now
  rw [drained] at answer
  obtain rfl := Except.ok.inj answer
  exact List.length_take

/-- A loop with more rounds than completions ends where one drain without a budget leads. -/
theorem batches_end (positive : 0 < budget) (now : Nat) {limit : Nat} (backed : link.Backed id)
    (rounds : link.backlog id < limit) :
    ∃ total after, link.drain id none now = (.ok total, after) ∧
      Batches id budget now link total after ∧
      drainBatches id budget now limit link = after := by
  induction limit generalizing link with
  | zero => exact absurd rounds (Nat.not_lt_zero _)
  | succ limit ih =>
      obtain ⟨report, rest, middle, after, drained, again, together⟩ :=
        drain_add backed budget (link.backlog id - budget) now
      have size := completed_of_drain backed drained
      unfold drainBatches
      rw [drained]
      by_cases used : budget ≤ link.backlog id
      · -- The budget is used up, and fewer completions are left than rounds.
        have full : report.completed = budget := size.trans (Nat.min_eq_left used)
        have left : middle.backlog id = link.backlog id - budget := by
          obtain ⟨queue, found, -⟩ := backed
          have fewer := backlog_drain found budget now
          rw [drained] at fewer
          exact fewer
        have onward : middle.Backed id := by
          have kept := backed.drain budget now
          rw [drained] at kept
          exact kept
        have fewer : middle.backlog id < limit := by
          rw [left]
          omega
        obtain ⟨total, final, whole, later, looped⟩ := ih onward fewer
        rw [drain_none, left, again] at whole
        cases whole
        refine ⟨report + rest, after, ?_, .again drained full later, ?_⟩
        · rw [drain_none, ← together, Nat.add_sub_cancel' used]
        · simp only [full, if_true]
          exact looped
      · -- The drain collected all completions.
        have unused := Nat.le_of_lt (Nat.not_le.1 used)
        have short : report.completed ≠ budget := by
          rw [size, Nat.min_eq_right unused]
          exact Nat.ne_of_lt (Nat.not_le.1 used)
        refine ⟨report, middle, ?_, .last drained short, ?_⟩
        · rw [← drain_of_le backed unused, drained]
        · simp only [short, if_false]

end Link

/-! ## Batches and one drain -/

/-- Draining a queue in batches is draining it once. -/
structure DrainsInBatches (link : Link) (id : QueueId) (now : Nat) : Prop where
  /-- Two drains in a row are one drain within both budgets: the same is left of registry, buffers,
  device and statistics, and the reports add up. -/
  twice : ∀ first second, ∃ (report rest : DrainReport) (middle after : Link),
    link.drain id (some first) now = (.ok report, middle) ∧
      middle.drain id (some second) now = (.ok rest, after) ∧
      link.drain id (some (first + second)) now = (.ok (report + rest), after)
  /-- The loop of a worker ends, unless its budget is zero, and it is one drain without a budget. -/
  loop : ∀ budget, 0 < budget → ∃ total after, link.drain id none now = (.ok total, after) ∧
    ∀ sum final, Batches id budget now link sum final ↔ sum = total ∧ final = after
  /-- One round more than there are completions is enough. -/
  rounds : ∀ budget limit, 0 < budget → link.backlog id < limit →
    Link.drainBatches id budget now limit link = (link.drain id none now).2

namespace Link

/-- In every link, reached by a run or not, batches of a queue whose completions are pending work
come to the same as one drain. -/
theorem drainsInBatches {link : Link} {id : QueueId} (backed : link.Backed id) (now : Nat) :
    DrainsInBatches link id now where
  twice := fun first second => drain_add backed first second now
  loop := by
    intro budget positive
    obtain ⟨total, after, whole, ended, -⟩ :=
      batches_end positive now backed (Nat.lt_succ_self (link.backlog id))
    refine ⟨total, after, whole, fun sum final => ⟨fun other => other.unique ended, ?_⟩⟩
    rintro ⟨rfl, rfl⟩
    exact ended
  rounds := by
    intro budget limit positive rounds
    obtain ⟨total, after, whole, -, looped⟩ := batches_end positive now backed rounds
    rw [looped, whole]

/-- Four completions wait: a received packet of a new flow, a packet that was sent, one that the
device dropped and one that failed. -/
theorem drainsInBatches_of_each_outcome :
    let blueprint : Blueprint := {
      capacity := 2, maxFlows := 1, buffersPerNode := 6, ringCapacity := 5, listening := [0] }
    let operations : List Operation := [.registry (.register 0 0), .device (.attach 0 4),
      .link (.postReceive 0 3), .link (.send { flow := 5, len := 60 } 7),
      .device (.receive 0 9 40), .device (.completeSends 0), .device (.complete 0 .dropped),
      .device (.complete 0 .error)]
    let link := ((System.fresh blueprint).run operations).link
    link.Backed 0 ∧ DrainsInBatches link 0 3 ∧ link.backlog 0 = 4 ∧
      (link.drain 0 none 3).1.toOption = some {
        events := 4, completed := 4, rxPackets := 1, txCompletions := 1, errors := 1,
        dropped := 1 } :=
  ⟨by decide, drainsInBatches (by decide) 3, by decide, by decide⟩

end Link

end FlowSteer
