import FlowSteer.Flow.Table
import FlowSteer.IdMap.Lemmas

/-!
# Look-ups in flow tables

`get?` is the view of a flow table, as it is of the map inside. Each operation on a table is
described by what a look-up finds after it; a table that takes in flows which it does not hold
takes in each of them as it is (`get?_foldl_absorb`).
-/

namespace FlowSteer

namespace FlowTable

variable {table : FlowTable} {flow : FlowId}

theorem contains_eq_isSome : table.contains flow = (table.get? flow).isSome := rfl

theorem contains_iff : table.contains flow = true ↔ ∃ entry, table.get? flow = some entry :=
  Option.isSome_iff_exists

theorem contains_eq_false_iff : table.contains flow = false ↔ table.get? flow = none := by
  rw [contains_eq_isSome, Option.isSome_eq_false_iff, Option.isNone_iff_eq_none]

theorem get?_put (table : FlowTable) (entry : Flow) (flow : FlowId) :
    (table.put entry).get? flow = if flow = entry.id then some entry else table.get? flow :=
  table.flows.get?_insert entry.id flow entry

theorem get?_modify (table : FlowTable) (flow other : FlowId) (change : Flow → Flow) :
    (table.modify flow change).get? other =
      if other = flow then (table.get? other).map change else table.get? other :=
  table.flows.get?_modify flow other change

theorem get?_erase (table : FlowTable) (flow other : FlowId) :
    (table.erase flow).get? other = if other = flow then none else table.get? other :=
  table.flows.get?_erase flow other

@[simp] theorem get?_clear (table : FlowTable) (flow : FlowId) : table.clear.get? flow = none :=
  rfl

theorem get?_forgetIdle (table : FlowTable) (now timeout : Nat) (flow : FlowId) :
    (table.forgetIdle now timeout).get? flow =
      (table.get? flow).filter fun entry => !entry.isIdle now timeout :=
  table.flows.get?_filter _ flow

/-! ## Taking in flows -/

theorem moveIn_of_absent {entry : Flow} (absent : table.contains entry.id = false) :
    table.moveIn entry = .ok (table.put entry) := by
  rw [moveIn, absent]
  rfl

theorem absorb_of_absent {entry : Flow} (absent : table.contains entry.id = false) :
    table.absorb entry = table.put entry := by
  rw [absorb, moveIn_of_absent absent]

/-- Flows that a table does not hold are taken in as they are, and nothing else changes. -/
theorem get?_foldl_absorb {entries : List Flow} (distinct : (entries.map (·.id)).Nodup)
    {table : FlowTable} (absent : ∀ entry ∈ entries, table.contains entry.id = false)
    (flow : FlowId) :
    (entries.foldl absorb table).get? flow =
      (entries.find? (·.id == flow)).or (table.get? flow) := by
  induction entries generalizing table with
  | nil => rfl
  | cons entry rest ih =>
      obtain ⟨notLater, distinctRest⟩ := List.nodup_cons.1 distinct
      have absentFirst := absent entry List.mem_cons_self
      have absentRest : ∀ later ∈ rest, (table.put entry).contains later.id = false := by
        intro later member
        have different : later.id ≠ entry.id := by
          intro same
          exact notLater (List.mem_map.2 ⟨later, member, same⟩)
        rw [contains_eq_false_iff, get?_put, if_neg different, ← contains_eq_false_iff]
        exact absent later (List.mem_cons_of_mem _ member)
      rw [List.foldl_cons, absorb_of_absent absentFirst, ih distinctRest absentRest, get?_put,
        List.find?_cons]
      by_cases same : entry.id = flow
      · subst same
        have missing : rest.find? (·.id == entry.id) = none := by
          rw [List.find?_eq_none]
          intro later member equal
          exact notLater (List.mem_map.2 ⟨later, member, beq_iff_eq.1 equal⟩)
        simp [missing]
      · have unequal : (entry.id == flow) = false := beq_eq_false_iff_ne.2 same
        rw [unequal, if_neg (Ne.symm same)]

end FlowTable

end FlowSteer
