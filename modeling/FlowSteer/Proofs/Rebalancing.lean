import FlowSteer.Proofs.Plane.Placement
import FlowSteer.Proofs.Registry.Bindings

/-!
# Rebalancing

A rebalance pass moves queues on to the next processor when there is more pending work than a
threshold. Which queues these are depends on a share of the threshold that is rounded down.

1. `Planner.exists_above_share`: some queue is above the share, so that a pass that has reason to
   act finds a queue to move.
2. `Planner.moves_eq_nil_iff`, `Planner.mem_moves_iff`: the moves are those of the queues above the
   share, and there are some exactly when there is more pending work than the threshold.
3. `Planner.rebalances`: a pass moves these queues, in order, and changes nothing else.
-/

namespace FlowSteer

namespace Planner

/-! ## The share -/

/-- Has a rebalance pass reason to act. -/
def Overloaded (planner : Planner) (registry : Registry) : Prop :=
  planner.settings.adaptive = true ∧ planner.settings.threshold.toNat < registry.totalPending

instance (planner : Planner) (registry : Registry) : Decidable (planner.Overloaded registry) :=
  inferInstanceAs (Decidable (_ ∧ _))

/-- Each queue's share of the threshold. -/
def share (planner : Planner) (registry : Registry) : Nat :=
  planner.settings.threshold.toNat / registry.size

variable {planner : Planner} {registry : Registry} {binding : Binding}

/-- Were all queues within the share, they would all together be within the threshold. -/
theorem exists_above_share (overloaded : planner.Overloaded registry) :
    ∃ id queue, registry.queues.get? id = some queue ∧ planner.share registry < queue.pending := by
  by_contra none
  have within : ∀ queue ∈ registry.queues.values, queue.pending ≤ planner.share registry := by
    intro queue member
    obtain ⟨⟨id, _⟩, listed, rfl⟩ := List.mem_map.1 member
    by_contra above
    exact none ⟨id, _, IdMap.get?_eq_some_iff.2 listed, Nat.not_le.1 above⟩
  have total : registry.totalPending ≤ planner.settings.threshold.toNat :=
    calc registry.totalPending
      _ ≤ registry.queues.total (·.pending) := Nat.mod_le _ _
      _ ≤ registry.size * planner.share registry := IdMap.total_le within
      _ ≤ planner.settings.threshold.toNat := Nat.mul_div_le _ _
  exact absurd overloaded.2 (Nat.not_lt.2 total)

theorem not_overloaded_of_empty (empty : registry.isEmpty = true) :
    ¬planner.Overloaded registry := by
  intro overloaded
  obtain ⟨id, queue, found, _⟩ := exists_above_share overloaded
  have none : registry.queues.entries = [] := List.isEmpty_iff.1 empty
  have listed : (id, queue) ∈ registry.queues.entries := IdMap.get?_eq_some_iff.1 found
  rw [none] at listed
  cases listed

/-! ## The moves -/

/-- The move of a queue to the processor after its own, or after its id when it has none. -/
def moveOn (planner : Planner) (id : QueueId) (queue : Queue) : Binding where
  queue := id
  source := queue.cpu
  target := (queue.cpu.getD id + 1) % planner.topology.processorCount

theorem processors_of_few (some : 0 < planner.topology.processorCount)
    (few : planner.topology.processorCount < wordSize32) :
    planner.processors % wordSize32 = planner.topology.processorCount := by
  rw [processors, Nat.max_eq_left some, Nat.mod_eq_of_lt few]

theorem moves_of_calm (calm : ¬planner.Overloaded registry) : planner.moves registry = [] := by
  unfold moves
  simp only []
  rw [if_pos]
  unfold Overloaded at calm
  cases adaptive : planner.settings.adaptive with
  | false => rfl
  | true => simpa [adaptive] using calm

theorem moves_of_overloaded (some : 0 < planner.topology.processorCount)
    (few : planner.topology.processorCount < wordSize32)
    (overloaded : planner.Overloaded registry) :
    planner.moves registry =
      (registry.queues.toList.filter (planner.share registry < ·.2.pending)).map
        fun entry => planner.moveOn entry.1 entry.2 := by
  unfold moves
  simp only []
  rw [if_neg, processors_of_few some few]
  · rfl
  · simp [overloaded.1, overloaded.2]

/-- There are moves exactly when there is reason to act. -/
theorem moves_eq_nil_iff : planner.moves registry = [] ↔ ¬planner.Overloaded registry := by
  constructor
  · intro none overloaded
    obtain ⟨id, queue, found, above⟩ := exists_above_share overloaded
    unfold moves at none
    simp only [] at none
    rw [if_neg (by simp [overloaded.1, overloaded.2])] at none
    have kept : (id, queue) ∈
        registry.queues.toList.filter (planner.share registry < ·.2.pending) :=
      List.mem_filter.2 ⟨IdMap.get?_eq_some_iff.1 found, decide_eq_true above⟩
    exact List.ne_nil_of_mem kept (List.map_eq_nil_iff.1 none)
  · exact moves_of_calm

/-- The program stops when there is reason to act and processors cannot be counted round. -/
theorem stops_iff : planner.stops registry = true ↔
    planner.processors % wordSize32 = 0 ∧ planner.Overloaded registry := by
  unfold stops
  rw [Bool.and_eq_true, beq_iff_eq, Bool.not_eq_true', List.isEmpty_eq_false_iff, ne_eq,
    moves_eq_nil_iff, Decidable.not_not]

/-- The moves are those of the queues above the share. -/
theorem mem_moves_iff (some : 0 < planner.topology.processorCount)
    (few : planner.topology.processorCount < wordSize32) :
    binding ∈ planner.moves registry ↔
      planner.Overloaded registry ∧ ∃ queue, registry.queues.get? binding.queue = .some queue ∧
        planner.share registry < queue.pending ∧ binding = planner.moveOn binding.queue queue := by
  by_cases overloaded : planner.Overloaded registry
  · rw [moves_of_overloaded some few overloaded, List.mem_map]
    constructor
    · rintro ⟨⟨id, queue⟩, kept, rfl⟩
      obtain ⟨listed, above⟩ := List.mem_filter.1 kept
      exact ⟨overloaded, queue, IdMap.get?_eq_some_iff.2 listed, of_decide_eq_true above, rfl⟩
    · rintro ⟨-, queue, found, above, moved⟩
      refine ⟨(binding.queue, queue), ?_, moved.symm⟩
      exact List.mem_filter.2 ⟨IdMap.get?_eq_some_iff.1 found, decide_eq_true above⟩
  · rw [moves_of_calm overloaded]
    exact ⟨nofun, fun both => absurd both.1 overloaded⟩

/-- Queues move in ascending order, each once. -/
theorem ascending_moves (planner : Planner) (registry : Registry) :
    ((planner.moves registry).map (·.queue)).Pairwise (· < ·) := by
  unfold moves
  simp only []
  split
  · exact .nil
  · rw [List.map_map]
    exact registry.queues.ids_ascending.sublist (List.filter_sublist.map Prod.fst)

/-! ## A pass -/

/-- A queue after a rebalance pass. -/
def rebalanced (planner : Planner) (registry : Registry) (id : QueueId) (queue : Queue) : Queue :=
  if planner.Overloaded registry ∧ planner.share registry < queue.pending then
    { queue with cpu := some (planner.moveOn id queue).target }
  else queue

/-- The queues that moves name are rebalanced, and so are the others. -/
theorem get?_queues_rebalance (some : 0 < planner.topology.processorCount)
    (few : planner.topology.processorCount < wordSize32) (id : QueueId) :
    (planner.rebalance registry).2.queues.get? id =
      (registry.queues.get? id).map (planner.rebalanced registry id) := by
  have distinct : ((planner.moves registry).map (·.queue)).Nodup :=
    (planner.ascending_moves registry).imp Nat.ne_of_lt
  show (registry.bind (planner.moves registry)).queues.get? id = _
  unfold rebalanced
  by_cases named : id ∈ (planner.moves registry).map (·.queue)
  · obtain ⟨binding, member, rfl⟩ := List.mem_map.1 named
    obtain ⟨overloaded, queue, found, above, moved⟩ := (mem_moves_iff some few).1 member
    rw [Registry.get?_queues_bind_of_mem distinct member, found, Option.map_some, Option.map_some,
      if_pos ⟨overloaded, above⟩]
    exact congrArg (fun binding : Binding => Option.some { queue with cpu := .some binding.target })
      moved
  · rw [Registry.get?_queues_bind_of_unnamed named]
    cases found : registry.queues.get? id with
    | none => rfl
    | some queue =>
        rw [Option.map_some, if_neg]
        rintro ⟨overloaded, above⟩
        apply named
        have member : planner.moveOn id queue ∈ planner.moves registry :=
          (mem_moves_iff some few).2 ⟨overloaded, queue, found, above, rfl⟩
        exact List.mem_map_of_mem member

/-- What a rebalance pass does: the bindings that it reports, and the registry that it leaves. -/
structure Rebalances (planner : Planner) (before : Registry) (bindings : List Binding)
    (after : Registry) : Prop where
  acts : bindings ≠ [] ↔ planner.Overloaded before
  ascending : (bindings.map (·.queue)).Pairwise (· < ·)
  moves : ∀ binding, binding ∈ bindings ↔
    planner.Overloaded before ∧ ∃ queue, before.queues.get? binding.queue = some queue ∧
      planner.share before < queue.pending ∧ binding = planner.moveOn binding.queue queue
  below : ∀ binding ∈ bindings, binding.target < planner.topology.processorCount
  queues : ∀ id, after.queues.get? id =
    (before.queues.get? id).map (planner.rebalanced before id)
  others : after = { before with queues := after.queues }
  idle : planner.settings.adaptive = false ∨ before.isEmpty = true → bindings = [] ∧ after = before

/-- A rebalance pass over any registry. -/
theorem rebalances (some : 0 < planner.topology.processorCount)
    (few : planner.topology.processorCount < wordSize32) (registry : Registry) :
    planner.Rebalances registry (planner.rebalance registry).1 (planner.rebalance registry).2 := by
  constructor
  case acts =>
    exact (not_congr moves_eq_nil_iff).trans Decidable.not_not
  case ascending => exact planner.ascending_moves registry
  case moves => exact fun _ => mem_moves_iff some few
  case below =>
    intro binding member
    obtain ⟨_, queue, _, _, moved⟩ := (mem_moves_iff some few).1 member
    rw [moved]
    exact Nat.mod_lt _ some
  case queues => exact get?_queues_rebalance some few
  case others => rfl
  case idle =>
    intro idle
    have calm : ¬planner.Overloaded registry := by
      rcases idle with off | empty
      · exact fun overloaded => Bool.noConfusion (off.symm.trans overloaded.1)
      · exact not_overloaded_of_empty empty
    unfold rebalance
    rw [moves_of_calm calm]
    exact ⟨rfl, rfl⟩

/-- Of four queues two are above their share of 250: the second moves to the next processor, the
last one to the first. -/
theorem rebalances_of_two_hot_queues :
    let planner : Planner := { topology := .uniform 1 4, numaAware := true }
    let registry := [RegistryOp.register 0 0, .register 1 0, .register 2 0, .register 3 0,
      .bindAll planner, .addWork 3 900, .addWork 1 300, .addWork 0 250].foldl (RegistryOp.apply 0)
      (.empty 4 8)
    planner.Rebalances registry
      [{ queue := 1, source := some 1, target := 2 }, { queue := 3, source := some 3, target := 0 }]
      (planner.rebalance registry).2 := by
  intro planner registry
  have moves : (planner.rebalance registry).1 =
      [{ queue := 1, source := some 1, target := 2 }, { queue := 3, source := some 3, target := 0 }] :=
    by decide
  have pass := rebalances (by decide : 0 < planner.topology.processorCount) (by decide) registry
  rwa [moves] at pass

end Planner

end FlowSteer
