import FlowSteer.Plane.Run
import FlowSteer.Proofs.Device.Hints
import FlowSteer.Proofs.Maps
import FlowSteer.Proofs.Registry.Effects

/-!
# Bindings and what the device is told of them

Queues are bound to processors by a planner alone, and whoever asks the planner has to tell the
device. `Registry.ToldBindings` says that the device has the processor of each bound queue.

* `RegistryOp.sameBindings`, `Registry.Leads.sameBindings`: all other operations leave the bindings
  alone;
* `ToldBindings.bind`: bindings that are made and pushed, one list for both, keep it;
* `Plane.coalescing_pushInterval`: an interval that is pushed reaches the queues it is pushed to,
  and no other.
-/

namespace FlowSteer

/-! ## The processor of a queue -/

namespace Registry

variable {registry before middle after : Registry} {id : QueueId}

/-- Processor of a queue, if there is such a queue and it is bound. -/
def cpu? (registry : Registry) (id : QueueId) : Option CpuId :=
  (registry.queues.get? id).bind (·.cpu)

theorem cpu?_of_get? {queue : Queue} (found : registry.queues.get? id = some queue) :
    registry.cpu? id = queue.cpu := by
  unfold cpu?
  rw [found, Option.bind_some]

theorem cpu?_eq_some_iff {cpu : CpuId} :
    registry.cpu? id = some cpu ↔
      ∃ queue, registry.queues.get? id = some queue ∧ queue.cpu = some cpu :=
  Option.bind_eq_some_iff

/-- The queues of the first registry are there, and all bindings are the same. -/
structure SameBindings (before after : Registry) : Prop where
  cpu : ∀ id, after.cpu? id = before.cpu? id
  present : ∀ {id}, id ∈ before.queueIds → id ∈ after.queueIds

namespace SameBindings

theorem refl (registry : Registry) : SameBindings registry registry :=
  ⟨fun _ => rfl, fun present => present⟩

theorem trans (first : SameBindings before middle) (second : SameBindings middle after) :
    SameBindings before after :=
  ⟨fun id => (second.cpu id).trans (first.cpu id), fun found => second.present (first.present found)⟩

theorem of_keeps (same : Keeps (·.cpu) before after) : SameBindings before after := by
  have join : ∀ registry : Registry, ∀ id,
      registry.cpu? id = ((registry.queues.get? id).map (·.cpu)).join := by
    intro registry id
    unfold cpu?
    cases registry.queues.get? id <;> rfl
  constructor
  · intro id
    rw [join after, join before, same id]
  · intro id present
    obtain ⟨queue, found⟩ := Option.isSome_iff_exists.1 (IdMap.contains_iff.2 present)
    obtain ⟨new, kept, -⟩ := same.of_before found
    exact IdMap.contains_iff.1 (Option.isSome_of_eq_some kept)

theorem register (registry : Registry) (id : QueueId) (node : NodeId) :
    SameBindings registry (registry.register id node).2 := by
  rcases registry.register_cases id node with ⟨_, result⟩ | ⟨absent, result⟩
  · rw [result]
    exact .refl registry
  · rw [result]
    constructor
    · intro other
      unfold cpu?
      rw [get?_putQueue]
      split
      · rename_i same
        rw [same, absent]
        rfl
      · rfl
    · intro other present
      have found : (registry.queues.get? other).isSome := IdMap.contains_iff.2 present
      apply IdMap.contains_iff.1
      unfold IdMap.contains
      rw [get?_putQueue]
      split
      · rfl
      · exact found

end SameBindings

end Registry

theorem Queue.cpu_blindToTraffic : Queue.BlindToTraffic (·.cpu) := fun _ _ _ => rfl

theorem Queue.cpu_blindToHealth : Queue.BlindToHealth (·.cpu) := fun _ _ _ => rfl

/-- Does the operation bind queues. -/
def RegistryOp.binds : RegistryOp → Bool
  | bindAll _ | rebalance _ => true
  | _ => false

/-- Operations other than those of a planner leave bindings alone. -/
theorem RegistryOp.sameBindings (now : Nat) (registry : Registry) {op : RegistryOp}
    (unbinding : op.binds = false) : registry.SameBindings (op.apply now registry) := by
  have failover : op.byFailover = true → registry.SameBindings (op.apply now registry) :=
    fun allowed => .of_keeps
      (Registry.keeps_byFailover Queue.cpu_blindToTraffic Queue.cpu_blindToHealth op allowed)
  have link : op.byLink = true → registry.SameBindings (op.apply now registry) :=
    fun allowed => .of_keeps
      (Registry.keeps_byLink Queue.cpu_blindToTraffic (fun _ _ => rfl) op allowed)
  cases op with
  | register id node => exact .register registry id node
  | forgetIdle time timeout =>
      exact .of_keeps (Registry.keeps_forgetIdle Queue.cpu_blindToTraffic.flows time timeout)
  | forgetAll => exact .of_keeps (Registry.keeps_forgetAll Queue.cpu_blindToTraffic.flows)
  | bindAll planner => cases unbinding
  | rebalance planner => cases unbinding
  | setStatus _ _ => exact failover rfl
  | clearErrors _ _ => exact failover rfl
  | updateStatus _ _ => exact failover rfl
  | moveFlow _ _ _ => exact failover rfl
  | moveAll _ _ => exact failover rfl
  | _ => exact link rfl

/-- What is done by operations that do not bind leaves bindings alone. -/
theorem Registry.Leads.sameBindings {kind : RegistryOp → Bool} {now : Nat}
    {before after : Registry} (unbinding : ∀ op, kind op = true → op.binds = false)
    (leads : Leads kind now before after) : before.SameBindings after := by
  have start : before.SameBindings before := .refl before
  refine leads.induct ?_ start
  intro registry op allowed same
  exact same.trans (op.sameBindings now registry (unbinding op allowed))

theorem RegistryOp.binds_of_byFailover (op : RegistryOp) (allowed : op.byFailover = true) :
    op.binds = false := by
  cases op with
  | bindAll planner => cases allowed
  | rebalance planner => cases allowed
  | _ => rfl

theorem RegistryOp.binds_of_byLink (op : RegistryOp) (allowed : op.byLink = true) :
    op.binds = false := by
  cases op with
  | bindAll planner => cases allowed
  | rebalance planner => cases allowed
  | _ => rfl

/-! ## Bindings that are made and pushed -/

/-- Every bound queue has a processor of a kind, and a table of hints has this processor. -/
def Registry.ToldBindings (allowed : QueueId → CpuId → Prop) (registry : Registry)
    (hints : IdMap CpuId) : Prop :=
  ∀ id cpu, registry.cpu? id = some cpu → allowed id cpu ∧ hints.get? id = some cpu

namespace Registry

variable {allowed : QueueId → CpuId → Prop} {registry : Registry}

theorem bind_cons (registry : Registry) (binding : Binding) (rest : List Binding) :
    registry.bind (binding :: rest) =
      (registry.adjust binding.queue ({ · with cpu := some binding.target })).bind rest := rfl

theorem cpu?_adjust (registry : Registry) (binding : Binding) (id : QueueId) :
    (registry.adjust binding.queue ({ · with cpu := some binding.target })).cpu? id =
      if id = binding.queue then (registry.queues.get? id).map fun _ => binding.target
      else registry.cpu? id := by
  unfold cpu?
  rw [get?_adjust]
  split
  · cases registry.queues.get? id <;> rfl
  · rfl

/-- Bindings that are made in the registry and pushed to the device. -/
theorem ToldBindings.bind {bindings : List Binding} {device : Device}
    (each : ∀ binding ∈ bindings, allowed binding.queue binding.target)
    (told : registry.ToldBindings allowed device.affinity) :
    (registry.bind bindings).ToldBindings allowed
      (Plane.pushAffinity device bindings).affinity := by
  induction bindings generalizing registry device with
  | nil => exact told
  | cons binding rest ih =>
      have toldFirst : (registry.adjust binding.queue
          ({ · with cpu := some binding.target })).ToldBindings allowed
            (device.setAffinity binding.queue binding.target).affinity := by
        intro id cpu bound
        rw [cpu?_adjust] at bound
        show _ ∧ (device.affinity.insert binding.queue binding.target).get? id = some cpu
        rw [IdMap.get?_insert]
        by_cases same : id = binding.queue
        · rw [if_pos same] at bound ⊢
          obtain ⟨_, _, rfl⟩ := Option.map_eq_some_iff.1 bound
          exact ⟨same ▸ each binding List.mem_cons_self, rfl⟩
        · rw [if_neg same] at bound ⊢
          exact told id cpu bound
      rw [bind_cons]
      exact ih (fun later member => each later (List.mem_cons_of_mem _ member)) toldFirst

/-- A queue that is bound stays bound, and a queue that a binding names becomes bound. -/
theorem isSome_cpu?_bind {bindings : List Binding} {id : QueueId}
    (present : id ∈ registry.queueIds)
    (named : id ∈ bindings.map (·.queue) ∨ (registry.cpu? id).isSome) :
    ((registry.bind bindings).cpu? id).isSome := by
  induction bindings generalizing registry with
  | nil =>
      rcases named with named | bound
      · cases named
      · exact bound
  | cons binding rest ih =>
      rw [bind_cons]
      apply ih
      · show id ∈ (registry.queues.modify binding.queue _).ids
        rw [IdMap.ids_modify]
        exact present
      · rw [cpu?_adjust]
        by_cases same : id = binding.queue
        · have found : (registry.queues.get? id).isSome := IdMap.contains_iff.2 present
          rw [if_pos same, Option.isSome_map]
          exact .inr found
        · rw [if_neg same]
          rcases named with named | bound
          · exact .inl ((List.mem_cons.1 named).resolve_left same)
          · exact .inr bound

@[simp] theorem queueIds_bind (registry : Registry) (bindings : List Binding) :
    (registry.bind bindings).queueIds = registry.queueIds := by
  induction bindings generalizing registry with
  | nil => rfl
  | cons binding rest ih =>
      rw [bind_cons, ih]
      exact IdMap.ids_modify _ _ _

/-- A queue that no binding names is left alone. -/
theorem get?_queues_bind_of_unnamed {bindings : List Binding} {id : QueueId}
    (unnamed : id ∉ bindings.map (·.queue)) :
    (registry.bind bindings).queues.get? id = registry.queues.get? id := by
  induction bindings generalizing registry with
  | nil => rfl
  | cons binding rest ih =>
      obtain ⟨different, later⟩ := not_or.1 fun named => unnamed (List.mem_cons.2 named)
      rw [bind_cons, ih later, get?_adjust, if_neg different]

/-- A queue that one binding names gets its processor, and keeps all else. -/
theorem get?_queues_bind_of_mem {bindings : List Binding} {binding : Binding}
    (distinct : (bindings.map (·.queue)).Nodup) (member : binding ∈ bindings) :
    (registry.bind bindings).queues.get? binding.queue =
      (registry.queues.get? binding.queue).map ({ · with cpu := some binding.target }) := by
  induction bindings generalizing registry with
  | nil => cases member
  | cons first rest ih =>
      obtain ⟨unnamed, distinctRest⟩ := List.nodup_cons.1 distinct
      rw [bind_cons]
      rcases List.mem_cons.1 member with rfl | later
      · rw [get?_queues_bind_of_unnamed unnamed, get?_adjust, if_pos rfl]
      · have different : binding.queue ≠ first.queue := by
          intro same
          have named : binding.queue ∈ rest.map (·.queue) := List.mem_map_of_mem later
          rw [same] at named
          exact unnamed named
        rw [ih distinctRest later, get?_adjust, if_neg different]

end Registry

namespace Plane

@[simp] theorem coalescing_pushAffinity (device : Device) (bindings : List Binding) :
    (pushAffinity device bindings).coalescing = device.coalescing := by
  induction bindings generalizing device with
  | nil => rfl
  | cons binding rest ih => exact ih (device.setAffinity binding.queue binding.target)

@[simp] theorem vectors_pushAffinity (device : Device) (bindings : List Binding) :
    (pushAffinity device bindings).vectors = device.vectors := by
  induction bindings generalizing device with
  | nil => rfl
  | cons binding rest ih => exact ih (device.setAffinity binding.queue binding.target)

/-- A pushed interval changes the intervals of the device, and nothing else. -/
theorem pushInterval_eq (device : Device) (ids : List QueueId) (usecs : Nat) :
    pushInterval device ids usecs =
      { device with coalescing := device.coalescing.insertAll (ids.map fun id => (id, usecs)) } := by
  induction ids generalizing device with
  | nil => rfl
  | cons id rest ih => exact ih (device.setInterval id usecs)

/-- A pushed interval reaches the queues that it is pushed to. -/
theorem coalescing_pushInterval (device : Device) (ids : List QueueId) (usecs : Nat)
    (id : QueueId) :
    (pushInterval device ids usecs).coalescing.get? id =
      if id ∈ ids then some usecs else device.coalescing.get? id := by
  have pushed := device.coalescing.get?_insertAll_const ids (fun id => id) usecs id
  rw [List.map_id'] at pushed
  rw [pushInterval_eq]
  exact pushed

@[simp] theorem affinity_pushInterval (device : Device) (ids : List QueueId) (usecs : Nat) :
    (pushInterval device ids usecs).affinity = device.affinity := by
  rw [pushInterval_eq]

@[simp] theorem vectors_pushInterval (device : Device) (ids : List QueueId) (usecs : Nat) :
    (pushInterval device ids usecs).vectors = device.vectors := by
  rw [pushInterval_eq]

end Plane

end FlowSteer
