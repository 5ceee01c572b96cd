import Mathlib.Algebra.GroupWithZero.Nat
import FlowSteer.Metrics.Basic
import FlowSteer.Proofs.Maps

/-!
# Totals of memory nodes

The rows of the memory nodes are made by going through the views of the queues once and adding each
to the row of its node, which is made when it is first needed. What this comes to:

1. `share_countAll`: a row has the sum over the queues of its node, in each measure.
2. `mem_ids_countAll`: there is a row for each node on which a queue lives, and no other.
3. `total_countAll`: all rows together have the sum over all queues.
-/

namespace FlowSteer

/-- What is summed up for a memory node. -/
inductive NodeMeasure where
  | rxPackets
  | txPackets
  | rxBytes
  | txBytes
  /-- Errors in both directions. -/
  | errors

namespace NodeMeasure

/-- The measure of the counters of a queue. -/
def ofCounters (counters : Counters) : NodeMeasure → Nat
  | rxPackets => counters.rxPackets
  | txPackets => counters.txPackets
  | rxBytes => counters.rxBytes
  | txBytes => counters.txBytes
  | errors => counters.errors

/-- The measure of a view of a queue. -/
def ofView (measure : NodeMeasure) (view : QueueView) : Nat := measure.ofCounters view.counters

/-- The measure of a row. -/
def ofRow (row : NodeMetrics) : NodeMeasure → Nat
  | rxPackets => row.rxPackets
  | txPackets => row.txPackets
  | rxBytes => row.rxBytes
  | txBytes => row.txBytes
  | errors => row.errors

theorem ofRow_add (row : NodeMetrics) (counters : Counters) (measure : NodeMeasure) :
    measure.ofRow (row.add counters) = measure.ofRow row + measure.ofCounters counters := by
  cases measure <;> rfl

theorem ofRow_fresh (node : NodeId) (measure : NodeMeasure) :
    measure.ofRow { node } = 0 := by
  cases measure <;> rfl

end NodeMeasure

namespace NodeMetrics

/-- The row of a node, made if there is none. -/
def rowOf (rows : IdMap NodeMetrics) (node : NodeId) : NodeMetrics :=
  (rows.get? node).getD { node }

/-- Adds a queue to the row of its node. -/
def countOne (rows : IdMap NodeMetrics) (view : QueueView) : IdMap NodeMetrics :=
  rows.insert view.node ((rowOf rows view.node).add view.counters)

/-- Adds some queues to the rows of their nodes. -/
def countAll (rows : IdMap NodeMetrics) (views : List QueueView) : IdMap NodeMetrics :=
  views.foldl countOne rows

/-- What the rows have for a node so far. -/
def share (measure : NodeMeasure) (rows : IdMap NodeMetrics) (node : NodeId) : Nat :=
  ((rows.get? node).map measure.ofRow).getD 0

variable {rows : IdMap NodeMetrics} {measure : NodeMeasure}

theorem ofRow_rowOf (measure : NodeMeasure) (rows : IdMap NodeMetrics) (node : NodeId) :
    measure.ofRow (rowOf rows node) = share measure rows node := by
  unfold rowOf share
  cases rows.get? node with
  | none => exact measure.ofRow_fresh node
  | some row => rfl

/-! ## Shares -/

theorem share_countOne (measure : NodeMeasure) (rows : IdMap NodeMetrics) (view : QueueView)
    (node : NodeId) :
    share measure (countOne rows view) node =
      share measure rows node + if view.node = node then measure.ofView view else 0 := by
  by_cases same : view.node = node
  · subst same
    rw [if_pos rfl, ← ofRow_rowOf measure rows]
    unfold share countOne
    rw [IdMap.get?_insert_self]
    exact measure.ofRow_add _ view.counters
  · unfold share countOne
    rw [IdMap.get?_insert_of_ne (Ne.symm same), if_neg same, Nat.add_zero]

/-- A row has the sum over the queues of its node. -/
theorem share_countAll (measure : NodeMeasure) (views : List QueueView)
    (rows : IdMap NodeMetrics) (node : NodeId) :
    share measure (countAll rows views) node = share measure rows node +
      ((views.filter (·.node == node)).map measure.ofView).sum := by
  induction views generalizing rows with
  | nil => rfl
  | cons view rest ih =>
      have later := ih (countOne rows view)
      rw [share_countOne, Nat.add_assoc] at later
      refine later.trans (congrArg _ ?_)
      rw [List.filter_cons]
      by_cases same : view.node = node
      · rw [if_pos same, if_pos (beq_iff_eq.2 same), List.map_cons, List.sum_cons]
      · rw [if_neg same, if_neg (fun equal => same (beq_iff_eq.1 equal)), Nat.zero_add]

/-- All rows together have the sum over all queues. -/
theorem total_countAll (measure : NodeMeasure) (views : List QueueView)
    (rows : IdMap NodeMetrics) :
    (countAll rows views).total measure.ofRow =
      rows.total measure.ofRow + (views.map measure.ofView).sum := by
  induction views generalizing rows with
  | nil => rfl
  | cons view rest ih =>
      -- The row that is put in place replaces what the node had so far.
      have added := rows.total_insert measure.ofRow view.node
        ((rowOf rows view.node).add view.counters)
      rw [measure.ofRow_add, ofRow_rowOf] at added
      change (countOne rows view).total measure.ofRow + share measure rows view.node =
        rows.total measure.ofRow + (share measure rows view.node + measure.ofView view) at added
      rw [List.map_cons, List.sum_cons]
      refine (ih (countOne rows view)).trans ?_
      omega

/-! ## Which rows there are -/

/-- There is a row for each node on which a queue lives, and no new one besides. -/
theorem mem_ids_countAll (views : List QueueView) (rows : IdMap NodeMetrics) (node : NodeId) :
    node ∈ (countAll rows views).ids ↔ node ∈ rows.ids ∨ ∃ view ∈ views, view.node = node := by
  induction views generalizing rows with
  | nil => simp [countAll]
  | cons view rest ih =>
      have added : node ∈ (countOne rows view).ids ↔ node ∈ rows.ids ∨ view.node = node := by
        rw [← IdMap.contains_iff, ← IdMap.contains_iff, IdMap.contains, IdMap.contains, countOne,
          IdMap.get?_insert]
        by_cases same : node = view.node
        · simp [same]
        · simp [same, Ne.symm same]
      refine (ih (countOne rows view)).trans ?_
      rw [added, or_assoc, List.exists_mem_cons_iff]

/-- Each row is kept under the node that it names. -/
def Labelled (rows : IdMap NodeMetrics) : Prop :=
  ∀ node row, rows.get? node = some row → row.node = node

theorem Labelled.countOne (labelled : Labelled rows) (view : QueueView) :
    Labelled (countOne rows view) := by
  intro node row found
  unfold NodeMetrics.countOne at found
  rw [IdMap.get?_insert] at found
  split at found
  · rename_i same
    cases found
    rw [same]
    show (rowOf rows view.node).node = view.node
    unfold rowOf
    cases present : rows.get? view.node with
    | none => rfl
    | some old => exact labelled view.node old present
  · exact labelled node row found

theorem Labelled.countAll (labelled : Labelled rows) (views : List QueueView) :
    Labelled (countAll rows views) := by
  induction views generalizing rows with
  | nil => exact labelled
  | cons view rest ih => exact ih (labelled.countOne view)

/-- The nodes that labelled rows name are their keys. -/
theorem Labelled.nodes_values (labelled : Labelled rows) :
    rows.values.map NodeMetrics.node = rows.ids := by
  unfold IdMap.values IdMap.ids
  rw [List.map_map]
  apply List.map_congr_left
  intro entry member
  exact labelled entry.1 entry.2 (IdMap.get?_eq_some_iff.2 member)

/-! ## The rows -/

theorem labelled_countAll (views : List QueueView) : Labelled (countAll .empty views) := by
  apply Labelled.countAll
  intro node row found
  rw [IdMap.get?_empty] at found
  cases found

theorem nodes_nodeMetrics (views : List QueueView) :
    (nodeMetrics views).map NodeMetrics.node = (countAll .empty views).ids :=
  (labelled_countAll views).nodes_values

theorem share_of_mem {views : List QueueView} {row : NodeMetrics}
    (listed : row ∈ nodeMetrics views) (measure : NodeMeasure) :
    measure.ofRow row = ((views.filter (·.node == row.node)).map measure.ofView).sum := by
  obtain ⟨entry, member, rfl⟩ := List.mem_map.1 listed
  have found : (countAll .empty views).get? entry.1 = some entry.2 :=
    IdMap.get?_eq_some_iff.2 member
  have summed := share_countAll measure views .empty entry.1
  rw [labelled_countAll views _ _ found]
  unfold share at summed
  rw [found] at summed
  exact summed.trans (Nat.zero_add _)

theorem sum_nodeMetrics (views : List QueueView) (measure : NodeMeasure) :
    ((nodeMetrics views).map measure.ofRow).sum = (views.map measure.ofView).sum := by
  have summed := total_countAll measure views .empty
  rw [IdMap.total_eq_sum] at summed
  exact summed.trans (Nat.zero_add _)

end NodeMetrics

end FlowSteer
