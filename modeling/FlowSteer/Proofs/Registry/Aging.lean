import FlowSteer.Proofs.Registry.Upkeep

/-!
# Aging, flow by flow

A flow that is idle at the later of two times is idle at one of them (`Flow.isIdle_max`), so two
passes come to the one at the later time, flow by flow, and count together what it counts:
`forgetIdle_forgetIdle`, `forgotten_forgetIdle`.
-/

namespace FlowSteer

namespace Flow

variable {flow : Flow} {now timeout : Nat}

theorem isIdle_iff : flow.isIdle now timeout = true ↔ timeout < now - flow.lastSeen :=
  decide_eq_true_iff

theorem isIdle_eq_false_iff : flow.isIdle now timeout = false ↔ now - flow.lastSeen ≤ timeout := by
  rw [← Bool.not_eq_true, isIdle_iff, Nat.not_lt]

/-- A flow is idle at the later of two times when it is idle at one of them. -/
theorem isIdle_max (flow : Flow) (first second timeout : Nat) :
    flow.isIdle (max first second) timeout =
      (flow.isIdle first timeout || flow.isIdle second timeout) := by
  rw [Bool.eq_iff_iff, Bool.or_eq_true, isIdle_iff, isIdle_iff, isIdle_iff]
  omega

end Flow

/-- Two passes over a table come to the one at the later time. -/
theorem FlowTable.forgetIdle_forgetIdle (table : FlowTable) (first second timeout : Nat) :
    (table.forgetIdle first timeout).forgetIdle second timeout =
      table.forgetIdle (max first second) timeout := by
  refine FlowTable.ext_get? rfl fun flow => ?_
  rw [get?_forgetIdle, get?_forgetIdle, get?_forgetIdle, Option.filter_filter]
  congr 1
  funext entry
  rw [entry.isIdle_max, Bool.not_or, Bool.and_comm]

namespace Registry

variable {registry : Registry}

/-- A pass counts the idle flows among those that the registry lists. -/
theorem forgetIdle_fst (registry : Registry) (time timeout : Nat) :
    (registry.forgetIdle time timeout).1 =
      registry.flows.countP fun owned => owned.flow.isIdle time timeout := by
  have each : ∀ pair : QueueId × Queue,
      (pair.2.flows.entries.map fun flow => { queue := pair.1, flow : OwnedFlow }).countP
        (·.flow.isIdle time timeout) = (pair.2.flows.idle time timeout).length := by
    intro pair
    rw [List.countP_map, FlowTable.idle, List.length_map, List.countP_eq_length_filter]
    rfl
  have sorted := List.mergeSort_perm (registry.queues.toList.flatMap fun pair =>
    pair.2.flows.entries.map fun flow => { queue := pair.1, flow : OwnedFlow })
      fun left right => decide (left.flow.id ≤ right.flow.id)
  show registry.queues.total _ = _
  rw [Registry.flows, sorted.countP_eq, List.countP_flatMap, IdMap.total_eq_sum, IdMap.values,
    List.map_map]
  congr 1
  apply List.map_congr_left
  exact fun pair _ => (each pair).symm

@[simp] theorem capacity_forgetIdle (registry : Registry) (time timeout : Nat) :
    (registry.forgetIdle time timeout).2.capacity = registry.capacity := rfl

@[simp] theorem maxFlows_forgetIdle (registry : Registry) (time timeout : Nat) :
    (registry.forgetIdle time timeout).2.maxFlows = registry.maxFlows := rfl

/-- Two passes come to the one at the later time, whichever comes first. -/
theorem forgetIdle_forgetIdle (registry : Registry) (first second timeout : Nat) :
    ((registry.forgetIdle first timeout).2.forgetIdle second timeout).2 =
      (registry.forgetIdle (max first second) timeout).2 := by
  refine ext_lookups (by simp only [capacity_forgetIdle]) (by simp only [maxFlows_forgetIdle])
    ?_ ?_
  · intro id
    rw [get?_queues_forgetIdle, get?_queues_forgetIdle, get?_queues_forgetIdle, Option.map_map]
    apply Option.map_congr
    intro queue _
    rw [Function.comp_apply, queue.flows.forgetIdle_forgetIdle]
  · intro flow
    rw [ownerOf_forgetIdle, ownerOf_forgetIdle, ownerOf_forgetIdle, Option.filter_filter]
    congr 1
    funext owner
    rw [flow?_forgetIdle]
    cases registry.flow? owner flow with
    | none => rfl
    | some entry =>
        cases early : entry.isIdle first timeout <;> simp [early, entry.isIdle_max]

/-- A flow that two passes forget is counted by one of them. -/
theorem Ownership.forgotten_forgetIdle (own : registry.Ownership) (first second timeout : Nat) :
    (registry.forgetIdle first timeout).1 +
        ((registry.forgetIdle first timeout).2.forgetIdle second timeout).1 =
      (registry.forgetIdle (max first second) timeout).1 := by
  have atFirst := own.forgotten_add_left first timeout
  have atSecond := (own.forgetIdle first timeout).forgotten_add_left second timeout
  have atOnce := own.forgotten_add_left (max first second) timeout
  rw [registry.forgetIdle_forgetIdle] at atSecond
  omega

end Registry

end FlowSteer
