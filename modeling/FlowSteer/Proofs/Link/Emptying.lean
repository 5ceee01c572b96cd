import FlowSteer.Proofs.Link.Accounts
import FlowSteer.Proofs.Link.Drains

/-!
# Emptying queues

A drain without a budget leaves no completion behind, and a series of such drains empties one queue
after another. What they do to registry and rings depends on registry and rings alone.

1. `device_drain`: a drain collects from the ring of its queue, and its accounting leaves the device
   alone; hence `ring_drain` and `get?_vectors_drain`.
2. `Alike.drain`: links that agree in registry and rings agree in them after a drain.
3. `ring_drainAll`: draining some queues takes away their completions and leaves all descriptors in
   flight.
-/

namespace FlowSteer

/-- The ring without its completions. -/
def Ring.emptied (ring : Ring) : Ring := { ring with completed := [] }

/-- Collecting completions changes one ring, if the device has it. -/
theorem Device.poll_snd (device : Device) (id : QueueId) (budget : Nat) :
    (device.poll id budget).2 =
      { device with rings := device.rings.modify id fun ring => (ring.poll budget).2 } := by
  unfold poll
  cases found : device.rings.get? id with
  | none => rw [IdMap.modify_of_absent found]
  | some ring =>
      rw [IdMap.modify_of_get? found]
      rfl

theorem Datapath.channel?_eq_some_iff {datapath : Datapath} {id : QueueId} {channel : Channel} :
    datapath.channel? id = some channel ↔
      datapath.listening.contains id = true ∧
        (datapath.parted.get? id).or (datapath.device.vectors.get? id) = some channel := by
  unfold channel?
  split
  · rename_i listening
    exact (and_iff_right listening).symm
  · rename_i deaf
    exact ⟨nofun, fun both => absurd both.1 deaf⟩

/-- The channels of vectors after the events of a queue are taken. -/
def Datapath.heard (datapath : Datapath) (id : QueueId) : IdMap Channel :=
  if datapath.listening.contains id && !datapath.parted.contains id then
    datapath.device.vectors.modify id fun channel => channel.receiveAll.2
  else datapath.device.vectors

/-- The channels without a vector after the events of a queue are taken. -/
def Datapath.partedHeard (datapath : Datapath) (id : QueueId) : IdMap Channel :=
  if datapath.listening.contains id then
    datapath.parted.modify id fun channel => channel.receiveAll.2
  else datapath.parted

/-- Taking events changes the channel of the queue, if it has one, and is counted. -/
theorem Datapath.takeEvents_snd (datapath : Datapath) (id : QueueId) :
    ∃ stats, (datapath.takeEvents id).2 = { datapath with
      stats
      parted := datapath.partedHeard id
      device := { datapath.device with vectors := datapath.heard id } } := by
  unfold takeEvents channel? heard partedHeard putChannel IdMap.contains
  cases datapath.listening.contains id with
  | true =>
      cases left : datapath.parted.get? id with
      | some channel =>
          simp only [IdMap.modify_of_get? left]
          exact ⟨_, rfl⟩
      | none =>
          simp only [IdMap.modify_of_absent left]
          cases found : datapath.device.vectors.get? id with
          | none =>
              rw [IdMap.modify_of_absent found]
              exact ⟨_, rfl⟩
          | some channel =>
              rw [IdMap.modify_of_get? found]
              exact ⟨_, rfl⟩
  | false => exact ⟨_, rfl⟩

/-- Giving back mappings takes their buffers into the pools, and changes no more of a device than the
number of mappings. -/
theorem Datapath.giveBackAll_eq (mappings : List Mapping) (datapath : Datapath) :
    mappings.foldl giveBack datapath =
      { datapath with
        pools := mappings.foldl (fun pools mapping => pools.release mapping.buffer) datapath.pools
        device := { datapath.device with
          mapped := datapath.device.mapped - mappings.length } } := by
  induction mappings generalizing datapath with
  | nil => rfl
  | cons mapping rest ih =>
      rw [List.foldl_cons, ih, List.length_cons, Nat.add_comm, ← Nat.sub_sub]
      rfl

namespace Link

variable {link : Link} {id : QueueId} {queue : Queue} {now : Nat}

/-! ## The device after a drain -/

/-- What the first queue answers decides whether another one is asked. -/
theorem registry_account_eq (link : Link) (id : QueueId) (flow : FlowId) (bytes : Nat)
    (direction : Direction) (now : Nat) :
    (link.account id flow bytes direction now).registry =
      (match link.registry.record id flow bytes direction now with
        | (.error (.ownedElsewhere _ owner), registry) =>
            registry.record owner flow bytes direction now
        | other => other).2 := by
  unfold account
  simp only []
  split
  · rename_i counted
    exact (congrArg Prod.snd counted).symm
  · rename_i refused
    exact (congrArg Prod.snd refused).symm

/-- Accounting for a completion changes no more of the datapath than its statistics. -/
theorem datapath_finish (id : QueueId) (now : Nat) (link : Link) (completion : Completion) :
    ∃ stats, (finish id now link completion).datapath = { link.datapath with stats } := by
  unfold finish finishOne
  cases completion.status with
  | ok =>
      cases completion.descriptor.direction with
      | rx =>
          simp only []
          cases completion.flow <|> completion.descriptor.flow with
          | none => exact ⟨_, rfl⟩
          | some flow =>
              rcases (link.countReceived completion.len).datapath_account id flow completion.len .rx
                now with same | same
              · exact ⟨_, same⟩
              · exact ⟨_, same⟩
      | tx => exact ⟨_, rfl⟩
  | error => exact ⟨_, rfl⟩
  | dropped => exact ⟨_, rfl⟩

theorem datapath_finishAll (id : QueueId) (now : Nat) (completions : List Completion)
    (link : Link) : ∃ stats,
      (completions.foldl (finish id now) link).datapath = { link.datapath with stats } := by
  induction completions generalizing link with
  | nil => exact ⟨_, rfl⟩
  | cons completion rest ih =>
      obtain ⟨first, finished⟩ := datapath_finish id now link completion
      obtain ⟨later, same⟩ := ih (finish id now link completion)
      rw [finished] at same
      exact ⟨later, same⟩

theorem datapath_settle (link : Link) (id : QueueId) (completed : Nat) :
    ∃ stats, (link.settle id completed).datapath = { link.datapath with stats } := by
  unfold settle
  cases link.registry.finishWork id completed with
  | mk outcome registry => cases outcome <;> exact ⟨_, rfl⟩

/-- What a drain collects leaves its ring, and goes back with its mappings and buffers. -/
theorem datapath_cleared (link : Link) (id : QueueId) (budget : Option Nat) :
    ∃ stats, (link.cleared id budget).datapath = { link.datapath with
      stats
      parted := link.datapath.partedHeard id
      pools := ((link.collected id budget).map Completion.mapping).foldl
        (fun pools mapping => pools.release mapping.buffer) link.datapath.pools
      device := { link.datapath.device with
        rings := link.datapath.device.rings.modify id fun ring =>
          (ring.poll (budget.getD (link.datapath.device.ring id).completed.length)).2
        vectors := link.datapath.heard id
        mapped := link.datapath.device.mapped - (link.collected id budget).length } } := by
  obtain ⟨_, heard⟩ := link.datapath.takeEvents_snd id
  unfold cleared
  simp only [heard, Datapath.giveBackAll_eq, Device.poll_snd, List.length_map]
  exact datapath_settle _ _ _

/-- A drain takes events, collects from one ring and gives mappings and buffers back. -/
theorem datapath_drain (found : link.registry.queues.get? id = some queue) (budget : Option Nat)
    (now : Nat) : ∃ pools stats, (link.drain id budget now).2.datapath = { link.datapath with
      pools
      stats
      parted := link.datapath.partedHeard id
      device := { link.datapath.device with
        rings := link.datapath.device.rings.modify id fun ring =>
          (ring.poll (budget.getD (link.datapath.device.ring id).completed.length)).2
        vectors := link.datapath.heard id
        mapped := link.datapath.device.mapped - (link.collected id budget).length } } := by
  obtain ⟨report, drained⟩ := drain_eq found budget now
  obtain ⟨_, cleared⟩ := link.datapath_cleared id budget
  obtain ⟨_, finished⟩ :=
    datapath_finishAll id now (link.collected id budget) (link.cleared id budget)
  rw [cleared] at finished
  rw [drained]
  exact ⟨_, _, finished⟩

theorem device_drain (found : link.registry.queues.get? id = some queue) (budget : Option Nat)
    (now : Nat) : (link.drain id budget now).2.datapath.device =
      { link.datapath.device with
        rings := link.datapath.device.rings.modify id fun ring =>
          (ring.poll (budget.getD (link.datapath.device.ring id).completed.length)).2
        vectors := link.datapath.heard id
        mapped := link.datapath.device.mapped - (link.collected id budget).length } := by
  obtain ⟨_, _, drained⟩ := datapath_drain found budget now
  rw [drained]

/-- A drain polls the ring of its queue, and no other one. -/
theorem ring_drain_eq (found : link.registry.queues.get? id = some queue) (budget : Option Nat)
    (other : QueueId) :
    (link.drain id budget now).2.datapath.device.ring other =
      if other = id then
        ((link.datapath.device.ring id).poll
          (budget.getD (link.datapath.device.ring id).completed.length)).2
      else link.datapath.device.ring other := by
  rw [device_drain found]
  unfold Device.ring
  simp only []
  rw [IdMap.get?_modify]
  by_cases same : other = id
  · rw [if_pos same, if_pos same, same]
    cases link.datapath.device.rings.get? id with
    | none => exact congrArg (Ring.mk []) List.drop_nil.symm
    | some ring => rfl
  · rw [if_neg same, if_neg same]

/-- A drain without a budget leaves nothing completed in the ring of its queue. -/
theorem ring_drain (found : link.registry.queues.get? id = some queue) (other : QueueId) :
    (link.drain id none now).2.datapath.device.ring other =
      if other = id then (link.datapath.device.ring id).emptied
      else link.datapath.device.ring other := by
  rw [ring_drain_eq found]
  congr 1
  exact congrArg (Ring.mk _) List.drop_length

/-- A drain attaches no vector. -/
theorem get?_vectors_drain {other : QueueId}
    (detached : link.datapath.device.vectors.get? other = none) :
    (link.drain id none now).2.datapath.device.vectors.get? other = none := by
  cases found : link.registry.queues.get? id with
  | none =>
      rw [drain_of_absent found]
      exact detached
  | some queue =>
      rw [device_drain found]
      show (link.datapath.heard id).get? other = none
      unfold Datapath.heard
      split
      · rw [IdMap.get?_modify, detached]
        exact ite_self _
      · exact detached

/-- A drain leaves the queues registered. -/
theorem queueIds_drain (link : Link) (id : QueueId) (now : Nat) :
    (link.drain id none now).2.registry.queueIds = link.registry.queueIds := by
  have same : Registry.Keeps (fun _ => ()) link.registry (link.drain id none now).2.registry := by
    apply (link.leads_drain id none).keeps
    exact fun _ op allowed =>
      Registry.keeps_byLink (fun _ _ _ => rfl) (fun _ _ => rfl) op allowed
  exact same.queueIds

/-! ## Links that are alike -/

/-- The same queues and flows, and the same descriptors in the rings. -/
structure Alike (left right : Link) : Prop where
  registry : left.registry = right.registry
  rings : left.datapath.device.rings = right.datapath.device.rings

namespace Alike

variable {left right : Link}

theorem refl (link : Link) : Alike link link := ⟨rfl, rfl⟩

theorem ring (alike : Alike left right) (id : QueueId) :
    left.datapath.device.ring id = right.datapath.device.ring id := by
  unfold Device.ring
  rw [alike.rings]

theorem registry_account (alike : left.registry = right.registry) (id : QueueId) (flow : FlowId)
    (bytes : Nat) (direction : Direction) (now : Nat) :
    (left.account id flow bytes direction now).registry =
      (right.account id flow bytes direction now).registry := by
  rw [registry_account_eq, registry_account_eq, alike]

theorem registry_finish (alike : left.registry = right.registry) (id : QueueId) (now : Nat)
    (completion : Completion) :
    (finish id now left completion).registry = (finish id now right completion).registry := by
  unfold finish finishOne
  cases completion.status with
  | ok =>
      cases completion.descriptor.direction with
      | rx =>
          have counted : (left.countReceived completion.len).registry =
              (right.countReceived completion.len).registry := alike
          simp only []
          cases completion.flow <|> completion.descriptor.flow with
          | none => exact alike
          | some flow => exact registry_account counted id flow completion.len .rx now
      | tx => exact alike
  | error =>
      show (left.registry.countError id _).2 = (right.registry.countError id _).2
      rw [alike]
  | dropped =>
      show (left.registry.countDrop id _).2 = (right.registry.countDrop id _).2
      rw [alike]

theorem registry_finishAll (alike : left.registry = right.registry) (id : QueueId) (now : Nat)
    (completions : List Completion) :
    (completions.foldl (finish id now) left).registry =
      (completions.foldl (finish id now) right).registry := by
  induction completions generalizing left right with
  | nil => exact alike
  | cons completion rest ih => exact ih (registry_finish alike id now completion)

theorem registry_settle (alike : left.registry = right.registry) (id : QueueId)
    (completed : Nat) : (left.settle id completed).registry =
      (right.settle id completed).registry := by
  unfold settle
  rw [alike]
  split <;> rfl

/-- Which events wait, which vectors there are and what the statistics say makes no difference to
a drain. -/
theorem drain (alike : Alike left right) (id : QueueId) (budget : Option Nat) (now : Nat) :
    Alike (left.drain id budget now).2 (right.drain id budget now).2 := by
  cases found : right.registry.queues.get? id with
  | none =>
      have absent : left.registry.queues.get? id = none := by
        rw [alike.registry, found]
      rw [drain_of_absent found, drain_of_absent absent]
      exact alike
  | some queue =>
      have present : left.registry.queues.get? id = some queue := by
        rw [alike.registry, found]
      constructor
      · obtain ⟨_, fromLeft⟩ := drain_eq present budget now
        obtain ⟨_, fromRight⟩ := drain_eq found budget now
        have collected : left.collected id budget = right.collected id budget := by
          unfold Link.collected
          rw [alike.ring]
        rw [fromLeft, fromRight]
        show (accounted left id budget now _).registry = (accounted right id budget now _).registry
        unfold accounted cleared
        rw [collected]
        apply registry_finishAll
        apply registry_settle
        exact alike.registry
      · rw [device_drain present, device_drain found, alike.ring]
        simp only [alike.rings]

end Alike

/-! ## Draining some queues -/

/-- Drains some queues without a budget, one after another. -/
def drainAll (link : Link) (ids : List QueueId) (now : Nat) : Link :=
  ids.foldl (fun link id => (link.drain id none now).2) link

/-- Drains leave the queues registered. -/
theorem queueIds_drainAll (link : Link) (ids : List QueueId) (now : Nat) :
    (link.drainAll ids now).registry.queueIds = link.registry.queueIds := by
  induction ids generalizing link with
  | nil => rfl
  | cons id rest ih => exact (ih _).trans (queueIds_drain link id now)

/-- Draining some queues takes their completions away, and leaves what is in flight. -/
theorem ring_drainAll {ids : List QueueId} (registered : ∀ id ∈ ids, id ∈ link.registry.queueIds)
    (other : QueueId) : (link.drainAll ids now).datapath.device.ring other =
      if other ∈ ids then (link.datapath.device.ring other).emptied
      else link.datapath.device.ring other := by
  induction ids generalizing link with
  | nil => rfl
  | cons id rest ih =>
      obtain ⟨queue, found⟩ :=
        Option.isSome_iff_exists.1 (IdMap.contains_iff.2 (registered id List.mem_cons_self))
      have later : ∀ other ∈ rest, other ∈ (link.drain id none now).2.registry.queueIds := by
        intro other member
        rw [queueIds_drain]
        exact registered other (List.mem_cons_of_mem _ member)
      refine (ih later).trans ?_
      rw [ring_drain found]
      by_cases same : other = id
      · rw [if_pos same, if_pos (List.mem_cons.2 (.inl same)), same]
        exact ite_self _
      · rw [if_neg same]
        simp only [List.mem_cons, same, false_or]

end Link

end FlowSteer
