import FlowSteer.Plane.Run
import FlowSteer.Proofs.Coalescer.Intervals
import FlowSteer.Proofs.Maps
import FlowSteer.Proofs.Registry.Queues

/-!
# Starting a control plane

A start checks its settings, registers the queues, attaches a vector to each of them, and assembles
a plane. It is refused when the settings are wrong or a vector is taken, and it stops where a table
cannot be allocated.

1. `Device.attachAll_cases`: all vectors are attached, or one is taken and the device is as before.
2. `Plane.newRegistry_eq_ok`: queues that fit are all registered, each on its node;
   `Plane.newRegistry_induct`: what each registration keeps, the registry of a new plane has.
3. `Plane.start_cases`: the outcomes of a start; `Plane.start_of_room`: one that succeeds;
   `Plane.started_of_start`: what it has made.
-/

namespace FlowSteer

/-! ## Vectors -/

namespace Device

variable {device : Device} {capacity : Nat}

/-- The device with a vector attached to each of some queues. -/
def attachedTo (device : Device) (capacity : Nat) (ids : List QueueId) : Device :=
  { device with vectors := device.vectors.insertAll (ids.map fun id => (id, { capacity })) }

theorem get?_attachedTo (device : Device) (capacity : Nat) (ids : List QueueId) (id : QueueId) :
    (device.attachedTo capacity ids).vectors.get? id =
      if id ∈ ids then some { capacity } else device.vectors.get? id := by
  have attached := device.vectors.get?_insertAll_const ids (fun id => id)
    ({ capacity } : Channel) id
  rw [List.map_id'] at attached
  exact attached

theorem attachedTo_concat (device : Device) (capacity : Nat) (ids : List QueueId) (id : QueueId) :
    device.attachedTo capacity (ids ++ [id]) =
      { device.attachedTo capacity ids with
        vectors := (device.attachedTo capacity ids).vectors.insert id { capacity } } := by
  unfold attachedTo IdMap.insertAll
  rw [List.map_append, List.foldl_append]
  rfl

/-- Detaching some queues takes their vectors away, and nothing else. -/
theorem foldl_detach (device : Device) (ids : List QueueId) :
    ∃ vectors : IdMap Channel, ids.foldl detach device = { device with vectors } ∧
      ∀ id, vectors.get? id = if id ∈ ids then none else device.vectors.get? id := by
  induction ids generalizing device with
  | nil => exact ⟨device.vectors, rfl, fun id => rfl⟩
  | cons first rest ih =>
      obtain ⟨vectors, detached, left⟩ := ih (device.detach first)
      refine ⟨vectors, detached, ?_⟩
      intro id
      have erased := device.vectors.get?_erase first id
      rw [left]
      by_cases later : id ∈ rest
      · rw [if_pos later, if_pos (List.mem_cons_of_mem _ later)]
      · rw [if_neg later]
        refine erased.trans ?_
        by_cases same : id = first
        · rw [if_pos same, if_pos (same ▸ List.mem_cons_self)]
        · rw [if_neg same, if_neg fun member => (List.mem_cons.1 member).elim same later]

/-- Detaching what was attached leaves the device as it was. -/
theorem foldl_detach_attachedTo {ids : List QueueId}
    (free : ∀ id ∈ ids, device.vectors.get? id = none) :
    ids.foldl detach (device.attachedTo capacity ids) = device := by
  obtain ⟨vectors, detached, left⟩ := (device.attachedTo capacity ids).foldl_detach ids
  have same : vectors = device.vectors := by
    apply IdMap.ext
    intro id
    rw [left, get?_attachedTo]
    by_cases member : id ∈ ids
    · rw [if_pos member, free id member]
    · rw [if_neg member, if_neg member]
  rw [detached, same]
  rfl

/-- All vectors are attached, or one is taken and the device is as before. The device is one on
which some vectors were attached already. -/
theorem attachAll_cases (device : Device) (capacity : Nat) {attached rest : List QueueId}
    (free : ∀ id ∈ attached, device.vectors.get? id = none) (distinct : (attached ++ rest).Nodup) :
    ((∀ id ∈ rest, device.vectors.get? id = none) ∧
      attachAll capacity attached rest (device.attachedTo capacity attached) =
        (.ok (), device.attachedTo capacity (attached ++ rest))) ∨
    ∃ id ∈ rest, device.vectors.contains id = true ∧
      attachAll capacity attached rest (device.attachedTo capacity attached) =
        (.error (.vectorRefused id "vector already attached"), device) := by
  induction rest generalizing attached with
  | nil =>
      refine .inl ⟨fun id member => absurd member List.not_mem_nil, ?_⟩
      rw [List.append_nil]
      rfl
  | cons id rest ih =>
      -- The vectors attached so far are those of other queues.
      have other : id ∉ attached := by
        intro member
        exact (List.nodup_append.1 distinct).2.2 id member id List.mem_cons_self rfl
      have found := device.get?_attachedTo capacity attached id
      rw [if_neg other] at found
      unfold attachAll attach
      by_cases taken : device.vectors.contains id = true
      · have refused : (device.attachedTo capacity attached).vectors.contains id = true := by
          unfold IdMap.contains
          rw [found]
          exact taken
        rw [if_pos refused]
        refine .inr ⟨id, List.mem_cons_self, taken, ?_⟩
        exact Prod.ext rfl (foldl_detach_attachedTo free)
      · have absent : device.vectors.get? id = none := by
          rw [IdMap.get?_eq_none_iff, ← IdMap.contains_iff]
          exact taken
        have accepted : ¬(device.attachedTo capacity attached).vectors.contains id = true := by
          unfold IdMap.contains
          rw [found]
          exact taken
        rw [if_neg accepted]
        simp only []
        rw [← attachedTo_concat]
        have freeNow : ∀ other ∈ attached ++ [id], device.vectors.get? other = none := by
          intro other member
          rcases List.mem_append.1 member with earlier | last
          · exact free other earlier
          · rw [List.mem_singleton.1 last, absent]
        have regrouped : attached ++ [id] ++ rest = attached ++ id :: rest := by
          rw [List.append_assoc, List.singleton_append]
        rcases ih freeNow (regrouped ▸ distinct) with ⟨all, result⟩ | ⟨later, member, held, result⟩
        · refine .inl ⟨List.forall_mem_cons.2 ⟨absent, all⟩, ?_⟩
          rw [result, regrouped]
        · exact .inr ⟨later, List.mem_cons_of_mem _ member, held, result⟩

theorem attachAll_nil_cases (device : Device) (capacity : Nat) {ids : List QueueId}
    (distinct : ids.Nodup) :
    ((∀ id ∈ ids, device.vectors.get? id = none) ∧
      attachAll capacity [] ids device = (.ok (), device.attachedTo capacity ids)) ∨
    ∃ id ∈ ids, device.vectors.contains id = true ∧
      attachAll capacity [] ids device =
        (.error (.vectorRefused id "vector already attached"), device) :=
  device.attachAll_cases capacity (fun _ member => absurd member List.not_mem_nil) distinct

end Device

namespace Plane

variable {settings : Settings} {device left : Device} {clock : Clock} {plane : Plane}
  {registry : Registry} {coalescer : Coalescer}

/-! ## Queues -/

theorem registerIndex_of_free {index : Nat} (fits : index < registry.capacity)
    (small : index < wordSize32) (free : registry.queues.get? index = none) :
    registerIndex settings registry index =
      .ok (registry.putQueue index (.fresh (homeNode settings index) registry.maxFlows)) := by
  have absent : ¬registry.queues.contains index = true := by
    rw [IdMap.contains_iff, ← IdMap.get?_eq_none_iff]
    exact free
  unfold registerIndex Registry.register
  rw [Nat.mod_eq_of_lt small, if_neg (Nat.not_le.2 fits), if_neg absent]

/-- Queues that fit are all registered, each on its node. -/
theorem newRegistry_eq_ok (fits : settings.queueCount.toNat ≤ settings.maxQueues.toNat)
    (few : settings.maxQueues.toNat < wordSize32) :
    ∃ registry, newRegistry settings = .ok registry ∧
      ∀ id, registry.queues.get? id =
        if id < settings.queueCount.toNat then
          some (.fresh (homeNode settings id) settings.flows.maxFlowsPerQueue.toNat)
        else none := by
  suffices each : ∀ count ≤ settings.maxQueues.toNat, ∃ registry,
      (List.range count).foldlM (registerIndex settings) (Registry.empty
        settings.maxQueues.toNat settings.flows.maxFlowsPerQueue.toNat) = .ok registry ∧
      registry.capacity = settings.maxQueues.toNat ∧
      registry.maxFlows = settings.flows.maxFlowsPerQueue.toNat ∧
      ∀ id, registry.queues.get? id =
        if id < count then
          some (.fresh (homeNode settings id) settings.flows.maxFlowsPerQueue.toNat)
        else none by
    obtain ⟨registry, made, -, -, found⟩ := each _ fits
    exact ⟨registry, made, found⟩
  intro count
  induction count with
  | zero => exact fun _ => ⟨_, rfl, rfl, rfl, fun id => rfl⟩
  | succ count ih =>
      intro below
      obtain ⟨registry, made, capacity, maxFlows, found⟩ := ih (Nat.le_of_succ_le below)
      have free : registry.queues.get? count = none := by
        rw [found, if_neg (Nat.lt_irrefl count)]
      have next : registerIndex settings registry count = _ :=
        registerIndex_of_free (capacity ▸ below) (Nat.lt_trans below few) free
      rw [List.range_succ, List.foldlM_append, made]
      refine ⟨registry.putQueue count (.fresh (homeNode settings count) registry.maxFlows), ?_,
        capacity, maxFlows, ?_⟩
      · show registerIndex settings registry count >>= pure = _
        rw [next]
        rfl
      · intro id
        rw [Registry.get?_putQueue, found, maxFlows]
        by_cases same : id = count
        · rw [if_pos same, same, if_pos (Nat.lt_succ_self count)]
        · have equal : id < count + 1 ↔ id < count := by omega
          rw [if_neg same]
          simp only [equal]

/-- What an empty registry has and each registration keeps, a new registry has. -/
theorem newRegistry_induct {holds : Registry → Prop}
    (kept : ∀ registry id node, holds registry → holds (registry.register id node).2)
    (made : newRegistry settings = .ok registry)
    (start : holds (.empty settings.maxQueues.toNat settings.flows.maxFlowsPerQueue.toNat)) :
    holds registry := by
  unfold newRegistry at made
  generalize Registry.empty settings.maxQueues.toNat settings.flows.maxFlowsPerQueue.toNat = first
    at made start
  generalize List.range settings.queueCount.toNat = indices at made
  induction indices generalizing first with
  | nil =>
      cases made
      exact start
  | cons index rest ih =>
      have registered := kept first (index % wordSize32) (homeNode settings index) start
      rw [List.foldlM_cons, registerIndex] at made
      cases result : first.register (index % wordSize32) (homeNode settings index) with
      | mk outcome next =>
          rw [result] at made registered
          cases outcome with
          | error error => cases made
          | ok _ => exact ih next registered made

theorem mem_queueIds_iff_of_get? {count : Nat} {fresh : QueueId → Queue}
    (queues : ∀ id, registry.queues.get? id = if id < count then some (fresh id) else none)
    {id : QueueId} : id ∈ registry.queueIds ↔ id < count := by
  rw [Registry.queueIds, ← IdMap.contains_iff, IdMap.contains, queues]
  by_cases below : id < count <;> simp [below]

/-! ## Outcomes -/

/-- The coalescer of a new plane: the initial interval, moved into its bounds. -/
def newCoalescer (settings : Settings) : Coalescer where
  settings := settings.coalesce
  interval := settings.coalesce.bound settings.coalesce.initialUsecs.toNat

theorem start_coalescer_of_valid (valid : settings.validate = .ok ()) :
    Coalescer.start settings.coalesce = .ok (newCoalescer settings) :=
  Coalescer.start_of_valid (Settings.validate_coalesce valid)

theorem prepare_of_unmade {error : ControlError} (valid : settings.validate = .ok ())
    (unmade : newRegistry settings = .error error) : prepare settings = .error error := by
  unfold prepare
  rw [start_coalescer_of_valid valid, unmade]
  rfl

theorem prepare_of_made (valid : settings.validate = .ok ())
    (made : newRegistry settings = .ok registry) :
    prepare settings = .ok (newCoalescer settings, registry) := by
  unfold prepare
  rw [start_coalescer_of_valid valid, made]
  rfl

/-- What a bring-up that succeeds has made. -/
structure Started (settings : Settings) (device : Device) (clock : Clock) (registry : Registry)
    (plane : Plane) : Prop where
  valid : settings.validate = .ok ()
  made : newRegistry settings = .ok registry
  assembled : plane = assemble settings clock (newCoalescer settings) registry
    (device.attachedTo settings.completionChannelCapacity.toNat registry.queueIds)

theorem start_of_invalid {error : ControlError} (invalid : settings.validate = .error error) :
    start settings device clock = .error (.refused error device) := by
  unfold start
  rw [invalid]
  rfl

theorem needTable_of_true {entries bytes : Nat} (allocated : allocates entries bytes = true) :
    needTable entries bytes = .ok () := if_pos allocated

theorem needTable_of_false {entries bytes : Nat} (unallocated : allocates entries bytes = false) :
    needTable entries bytes = .error .stopped := if_neg (ne_true_of_eq_false unallocated)

/-- The tables that a bring-up allocates before it attaches vectors. -/
def hasTables (settings : Settings) : Bool :=
  allocates settings.maxQueues.toNat Registry.slotBytes &&
    allocates settings.completionChannelCapacity.toNat Channel.slotBytes

theorem attachVectors_of_noTable {ids : List QueueId}
    (unallocated : allocates settings.completionChannelCapacity.toNat Channel.slotBytes = false) :
    attachVectors settings device ids = .error .stopped := by
  unfold attachVectors
  simp only []
  rw [needTable_of_false unallocated]
  rfl

theorem attachVectors_of_refused {ids : List QueueId} {error : ControlError}
    (allocated : allocates settings.completionChannelCapacity.toNat Channel.slotBytes = true)
    (refused : device.attachAll settings.completionChannelCapacity.toNat [] ids =
      (.error error, left)) :
    attachVectors settings device ids = .error (.refused error left) := by
  unfold attachVectors
  simp only []
  rw [needTable_of_true allocated, refused]
  rfl

theorem attachVectors_of_attached {ids : List QueueId} {attached : Device}
    (allocated : allocates settings.completionChannelCapacity.toNat Channel.slotBytes = true)
    (taken : device.attachAll settings.completionChannelCapacity.toNat [] ids =
      (.ok (), attached)) :
    attachVectors settings device ids = .ok attached := by
  unfold attachVectors
  simp only []
  rw [needTable_of_true allocated, taken]
  rfl

section Made

variable (valid : settings.validate = .ok ()) (made : newRegistry settings = .ok registry)
include valid made

/-- With valid settings whose queues are registered, the rest hangs on tables and vectors. -/
theorem start_of_made :
    start settings device clock = (do
      needTable settings.maxQueues.toNat Registry.slotBytes
      let attached ← attachVectors settings device registry.queueIds
      needTable (max settings.numaNodes.toNat 1) Topology.nodeBytes
      return assemble settings clock (newCoalescer settings) registry attached) := by
  unfold start
  rw [valid, prepare_of_made valid made]
  rfl

theorem start_of_noTables (noTables : hasTables settings = false) :
    start settings device clock = .error .stopped := by
  rw [start_of_made valid made]
  rcases Bool.and_eq_false_iff.1 noTables with places | events
  · rw [needTable_of_false places]
    rfl
  · rw [attachVectors_of_noTable events]
    unfold needTable
    split <;> rfl

theorem start_of_refused (tables : hasTables settings = true) {error : ControlError}
    (refused : device.attachAll settings.completionChannelCapacity.toNat [] registry.queueIds =
      (.error error, left)) : start settings device clock = .error (.refused error left) := by
  obtain ⟨places, events⟩ := Bool.and_eq_true_iff.1 tables
  rw [start_of_made valid made, needTable_of_true places, attachVectors_of_refused events refused]
  rfl

theorem start_of_attached (tables : hasTables settings = true) {attached : Device}
    (taken : device.attachAll settings.completionChannelCapacity.toNat [] registry.queueIds =
      (.ok (), attached)) :
    start settings device clock =
      (needTable (max settings.numaNodes.toNat 1) Topology.nodeBytes).map fun _ =>
        assemble settings clock (newCoalescer settings) registry attached := by
  obtain ⟨places, events⟩ := Bool.and_eq_true_iff.1 tables
  rw [start_of_made valid made, needTable_of_true places, attachVectors_of_attached events taken]
  rfl

theorem start_of_room (tables : hasTables settings = true) {attached : Device}
    (taken : device.attachAll settings.completionChannelCapacity.toNat [] registry.queueIds =
      (.ok (), attached))
    (nodes : allocates (max settings.numaNodes.toNat 1) Topology.nodeBytes = true) :
    start settings device clock =
      .ok (assemble settings clock (newCoalescer settings) registry attached) := by
  rw [start_of_attached valid made tables taken, needTable_of_true nodes]
  rfl

end Made

theorem ne_ok_of_unmade {error : ControlError} (valid : settings.validate = .ok ())
    (unmade : newRegistry settings = .error error) (plane : Plane) :
    start settings device clock ≠ .ok plane := by
  unfold start
  rw [valid, prepare_of_unmade valid unmade]
  cases needTable settings.maxQueues.toNat Registry.slotBytes <;> exact nofun

theorem started_of_start (succeeded : start settings device clock = .ok plane) :
    ∃ registry, Started settings device clock registry plane := by
  cases valid : settings.validate with
  | error error =>
      rw [start_of_invalid valid] at succeeded
      cases succeeded
  | ok _ =>
      cases made : newRegistry settings with
      | error error => exact absurd succeeded (ne_ok_of_unmade valid made plane)
      | ok registry =>
          cases tables : hasTables settings with
          | false =>
              rw [start_of_noTables valid made tables] at succeeded
              cases succeeded
          | true =>
              rcases device.attachAll_nil_cases settings.completionChannelCapacity.toNat
                registry.queues.ids_nodup with ⟨-, result⟩ | ⟨_, _, _, result⟩
              · rw [start_of_attached valid made tables result] at succeeded
                cases room : needTable (max settings.numaNodes.toNat 1) Topology.nodeBytes with
                | error failure =>
                    rw [room] at succeeded
                    cases succeeded
                | ok _ =>
                    rw [room] at succeeded
                    cases succeeded
                    exact ⟨registry, valid, made, rfl⟩
              · rw [start_of_refused valid made tables result] at succeeded
                cases succeeded

/-- Wrong settings; or a table before the vectors that is too long; or a vector that is taken; or
the topology too long; or a plane. -/
theorem start_cases (few : settings.maxQueues.toNat < wordSize32) (device : Device)
    (clock : Clock) :
    (∃ error, settings.validate = .error error ∧
      start settings device clock = .error (.refused error device)) ∨
    settings.validate = .ok () ∧
      ((hasTables settings = false ∧ start settings device clock = .error .stopped) ∨
      hasTables settings = true ∧
        ((∃ id < settings.queueCount.toNat, device.vectors.contains id = true ∧
          start settings device clock =
            .error (.refused (.vectorRefused id "vector already attached") device)) ∨
        (∀ id < settings.queueCount.toNat, device.vectors.contains id = false) ∧
          ∃ plane, start settings device clock =
            (needTable (max settings.numaNodes.toNat 1) Topology.nodeBytes).map fun _ =>
              plane)) := by
  cases valid : settings.validate with
  | error error => exact .inl ⟨error, rfl, start_of_invalid valid⟩
  | ok _ =>
      refine .inr ⟨rfl, ?_⟩
      obtain ⟨registry, made, queues⟩ := newRegistry_eq_ok (Settings.fits_of_valid valid).queues few
      have present : ∀ id, id ∈ registry.queueIds ↔ id < settings.queueCount.toNat :=
        fun _ => mem_queueIds_iff_of_get? queues
      cases tables : hasTables settings with
      | false => exact .inl ⟨rfl, start_of_noTables valid made tables⟩
      | true =>
          refine .inr ⟨rfl, ?_⟩
          rcases device.attachAll_nil_cases settings.completionChannelCapacity.toNat
            registry.queues.ids_nodup with ⟨free, result⟩ | ⟨id, member, taken, result⟩
          · refine .inr ⟨?_, _, start_of_attached valid made tables result⟩
            intro id below
            unfold IdMap.contains
            rw [free id ((present id).2 below)]
            rfl
          · exact .inl ⟨id, (present id).1 member, taken,
              start_of_refused valid made tables result⟩

end Plane

end FlowSteer
