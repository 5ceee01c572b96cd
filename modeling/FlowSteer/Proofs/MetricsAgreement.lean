import FlowSteer.Proofs.Metrics.Nodes
import FlowSteer.Proofs.Plane.Effects

/-!
# The views of a device agree

Queues, flows, memory nodes and failover are shown by four traversals of one registry. In every
plane that is reached they agree with each other (`DeviceMetrics.Agree`):

1. `Registry.Ownership.listing_eq`: the rows of the flows are the entries of the directory, in their
   order, so that each flow has one row and the row names its owner.
2. `Registry.Ownership.countP_listing`: a queue has as many rows as its table has flows.
3. `countP_statuses`: each queue has one of four statuses.
4. `Plane.metricsAgree_run`: together with the totals of the nodes this gives the agreement.
-/

namespace FlowSteer

/-! ## Rows of flows -/

/-- A flow of the listing with its owner, as the directory has them. -/
def OwnedFlow.entry (owned : OwnedFlow) : FlowId × QueueId := (owned.flow.id, owned.queue)

namespace Registry

variable {registry : Registry}

namespace Ownership

/-- The listing has the flows of the directory, each with its owner. -/
theorem listing_perm (own : Ownership registry) :
    (registry.flows.map OwnedFlow.entry).Perm registry.directory.toList := by
  have tables : (registry.queues.toList.flatMap fun pair =>
      pair.2.flows.entries.map fun flow => { queue := pair.1, flow : OwnedFlow }).map
        OwnedFlow.entry =
      registry.queues.toList.flatMap fun pair =>
        pair.2.flows.flows.ids.map fun flow => (flow, pair.1) := by
    rw [List.map_flatMap]
    apply List.flatMap_congr
    intro pair member
    rw [← own.ids_entries (IdMap.get?_eq_some_iff.2 member), List.map_map, List.map_map]
    rfl
  have sorted : (registry.flows.map OwnedFlow.entry).Perm _ := (List.mergeSort_perm _ _).map _
  rw [tables] at sorted
  exact sorted.trans own.directory_perm.symm

/-- The listing is the directory, in ascending order of the flow ids. -/
theorem listing_eq (own : Ownership registry) :
    registry.flows.map OwnedFlow.entry = registry.directory.toList := by
  have sorted : registry.flows.Pairwise fun left right => left.flow.id ≤ right.flow.id := by
    refine List.Pairwise.imp of_decide_eq_true (List.pairwise_mergeSort ?_ ?_ _)
    · intro first second third below above
      exact decide_eq_true (Nat.le_trans (of_decide_eq_true below) (of_decide_eq_true above))
    · intro first second
      simpa using Nat.le_total first.flow.id second.flow.id
  have weakly : (registry.flows.map OwnedFlow.entry).Pairwise fun left right =>
      left.1 ≤ right.1 := by
    rw [List.pairwise_map]
    exact sorted
  have distinct : (registry.flows.map OwnedFlow.entry).Pairwise fun left right =>
      left.1 ≠ right.1 := by
    apply (own.listing_perm.pairwise_iff fun different => Ne.symm different).2
    exact registry.directory.ascending.imp Nat.ne_of_lt
  have strictly : (registry.flows.map OwnedFlow.entry).Pairwise fun left right =>
      left.1 < right.1 :=
    (weakly.and distinct).imp fun both => Nat.lt_of_le_of_ne both.1 both.2
  -- Two lists with the same entries that both ascend are one list.
  exact own.listing_perm.eq_of_pairwise
    (fun _ _ _ _ below above => absurd (Nat.lt_trans below above) (Nat.lt_irrefl _))
    strictly registry.directory.ascending

/-- As many entries of the directory name a queue as its table has flows. -/
theorem countP_directory (own : Ownership registry) {id : QueueId} {queue : Queue}
    (found : registry.queues.get? id = some queue) :
    registry.directory.toList.countP (·.2 == id) = queue.flows.size := by
  have same : ((registry.directory.toList.filter (·.2 == id)).map Prod.fst).Perm
      queue.flows.flows.ids := by
    apply (List.perm_ext_iff_of_nodup ?_ queue.flows.flows.ids_nodup).2
    · intro flow
      rw [← IdMap.contains_iff]
      refine Iff.trans ?_ (own.held_iff found flow).symm
      rw [List.mem_map]
      constructor
      · rintro ⟨⟨_, owner⟩, member, rfl⟩
        obtain ⟨listed, named⟩ := List.mem_filter.1 member
        rw [ownerOf, IdMap.get?_eq_some_iff, ← beq_iff_eq.1 named]
        exact listed
      · intro owned
        refine ⟨(flow, id), List.mem_filter.2 ⟨IdMap.get?_eq_some_iff.1 owned, ?_⟩, rfl⟩
        exact beq_self_eq_true id
    · exact registry.directory.ids_nodup.sublist (List.filter_sublist.map _)
  rw [List.countP_eq_length_filter, ← List.length_map Prod.fst, same.length_eq]
  exact List.length_map _

/-- A queue has as many rows of flows as its table has flows. -/
theorem countP_listing (own : Ownership registry) {id : QueueId} {queue : Queue}
    (found : registry.queues.get? id = some queue) :
    registry.flows.countP (·.queue == id) = queue.flows.size := by
  have counted := own.countP_directory found
  rw [← own.listing_eq, List.countP_map] at counted
  exact counted

end Ownership

theorem queues_views (registry : Registry) :
    registry.views.map QueueView.queue = registry.queueIds := by
  unfold views queueIds IdMap.ids
  rw [List.map_map]
  rfl

end Registry

/-! ## Statuses -/

/-- Each queue has one of four statuses. -/
theorem countP_statuses (queues : List Queue) :
    queues.countP (·.status == .active) + queues.countP (·.status == .degraded) +
        queues.countP (·.status == .failed) + queues.countP (·.status == .recovering) =
      queues.length := by
  induction queues with
  | nil => rfl
  | cons queue rest ih =>
      simp only [List.countP_cons, List.length_cons, ← ih]
      cases queue.status <;> simp <;> omega

/-! ## The agreement -/

/-- The views of a device agree with each other. -/
structure DeviceMetrics.Agree (metrics : DeviceMetrics) : Prop where
  /-- Each flow has one row, in ascending order. -/
  flowsAscending : metrics.flows.Pairwise fun left right => left.flow < right.flow
  flowCounts : ∀ view ∈ metrics.queues,
    view.flowCount = metrics.flows.countP (·.queue == view.queue)
  flowsPlaced : ∀ row ∈ metrics.flows, ∃ view ∈ metrics.queues, view.queue = row.queue
  /-- Pending work is summed as a word. -/
  pending : metrics.totalPending = (metrics.queues.map (·.pending)).sum % wordSize
  /-- Each node has one row, in ascending order. -/
  nodesAscending : metrics.nodes.Pairwise fun left right => left.node < right.node
  nodesNamed : ∀ node, (∃ row ∈ metrics.nodes, row.node = node) ↔
    ∃ view ∈ metrics.queues, view.node = node
  /-- A row has the sum over the queues of its node, in each measure. -/
  nodeRows : ∀ row ∈ metrics.nodes, ∀ measure : NodeMeasure, measure.ofRow row =
    ((metrics.queues.filter (·.node == row.node)).map measure.ofView).sum
  /-- All rows together have the sum over all queues. -/
  nodeTotals : ∀ measure : NodeMeasure,
    (metrics.nodes.map measure.ofRow).sum = (metrics.queues.map measure.ofView).sum
  statuses : metrics.failover.activeQueues + metrics.failover.degradedQueues +
    metrics.failover.failedQueues + metrics.failover.recoveringQueues = metrics.queues.length
  failed : metrics.failover.failedQueues = metrics.queues.countP (·.status == .failed)

namespace Plane

variable {plane : Plane}

/-- The views of a plane agree as soon as its tables and its directory do. -/
theorem agree_metrics (own : plane.registry.Ownership) : plane.metrics.Agree := by
  have listed : ∀ view ∈ plane.registry.views, ∃ queue,
      plane.registry.queues.get? view.queue = some queue ∧ queue.view view.queue = view := by
    intro view member
    obtain ⟨entry, present, rfl⟩ := List.mem_map.1 member
    exact ⟨entry.2, IdMap.get?_eq_some_iff.2 present, rfl⟩
  constructor
  case flowsAscending =>
    have ascending := plane.registry.directory.ascending
    change plane.registry.directory.toList.Pairwise _ at ascending
    rw [← own.listing_eq, List.pairwise_map] at ascending
    exact List.pairwise_map.2 ascending
  case flowCounts =>
    intro view member
    obtain ⟨queue, found, shown⟩ := listed view member
    rw [← shown]
    show queue.flows.size = plane.registry.flowMetrics.countP (·.queue == view.queue)
    rw [Registry.flowMetrics, List.countP_map]
    exact (own.countP_listing found).symm
  case flowsPlaced =>
    intro row member
    obtain ⟨owned, present, rfl⟩ := List.mem_map.1 member
    have entry : owned.entry ∈ plane.registry.directory.toList := by
      rw [← own.listing_eq]
      exact List.mem_map_of_mem present
    obtain ⟨queue, _, found, _⟩ := own.entry_of_owner (IdMap.get?_eq_some_iff.2 entry)
    have registered : owned.queue ∈ plane.registry.queueIds :=
      IdMap.contains_iff.1 (Option.isSome_of_eq_some found)
    rw [← Registry.queues_views] at registered
    exact List.mem_map.1 registered
  case pending =>
    show plane.registry.queues.total (·.pending) % wordSize =
      (plane.registry.views.map (·.pending)).sum % wordSize
    rw [IdMap.total_eq_sum, IdMap.values, Registry.views, List.map_map, List.map_map]
    rfl
  case nodesAscending =>
    have ascending := (NodeMetrics.countAll .empty plane.registry.views).ids_ascending
    rw [← NodeMetrics.nodes_nodeMetrics, List.pairwise_map] at ascending
    exact ascending
  case nodesNamed =>
    intro node
    have named := NodeMetrics.mem_ids_countAll plane.registry.views .empty node
    rw [← NodeMetrics.nodes_nodeMetrics, List.mem_map] at named
    refine named.trans (or_iff_right ?_)
    exact List.not_mem_nil
  case nodeRows => exact fun row member measure => NodeMetrics.share_of_mem member measure
  case nodeTotals => exact NodeMetrics.sum_nodeMetrics plane.registry.views
  case statuses =>
    have counted := countP_statuses plane.registry.queues.values
    rw [IdMap.values, List.length_map] at counted
    exact counted.trans (List.length_map _).symm
  case failed =>
    show plane.registry.queues.values.countP (·.status == .failed) =
      plane.registry.views.countP (·.status == .failed)
    rw [IdMap.values, Registry.views, List.countP_map, List.countP_map]
    rfl

/-- In every plane that is reached there is a row for each registered queue and for no other, and
the views of queues, flows, nodes and failover agree. -/
theorem metricsAgree_run {settings : Settings} {device : Device} {clock : Clock}
    (started : start settings device clock = .ok plane) (operations : List PlaneOp) :
    (plane.run operations).metrics.queues.map QueueView.queue =
        (plane.run operations).registry.queueIds ∧
      (plane.run operations).metrics.Agree :=
  ⟨Registry.queues_views _, agree_metrics (ownership_run started operations)⟩

/-- Two nodes of bring-up and a third one of a queue that came later, flows on two queues, and a
queue whose flow was moved away. -/
theorem metricsAgree_run_of_three_nodes :
    let settings : Settings := {
      queueCount := 3, maxQueues := 4, numaNodes := 2, processorCount := 4
      pool := { buffersPerNode := 2, bufferSize := 64 } }
    let operations : List PlaneOp := [.part (.registry (.register 3 5)),
      .part (.registry (.record 0 9 60 .rx)), .part (.registry (.record 2 7 50 .tx)),
      .part (.registry (.record 3 5 40 .rx)), .part (.failover (.handleFailure 0)),
      .part (.registry (.countError 1 .rx))]
    ∃ plane, start settings { ringCapacity := 4 } {} = .ok plane ∧
      (plane.run operations).metrics.Agree ∧
        (plane.run operations).metrics.queues.map (·.flowCount) = [0, 1, 1, 1] ∧
        (plane.run operations).metrics.nodes.map (fun row => (row.node, row.rxBytes, row.errors)) =
          [(0, 60, 0), (1, 0, 1), (5, 40, 0)] := by
  intro settings operations
  have started : start settings { ringCapacity := 4 } {} = .ok _ :=
    start_of_room rfl rfl (by decide) rfl (by decide)
  exact ⟨_, started, (metricsAgree_run started operations).2, by decide, by decide⟩

end Plane

end FlowSteer
