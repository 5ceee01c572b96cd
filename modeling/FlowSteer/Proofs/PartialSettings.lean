import FlowSteer.Proofs.SettingsFiles

/-!
# Settings files that leave members out

A settings file may give any members, of the file itself and of each section, in any order and among
members that are unknown. What is loaded has the members that were given and the defaults of all
others.

1. `Settings.overlay`: the chosen members of some settings over the defaults.
2. `Json.Gives`, `Settings.IsPart`: an object gives the chosen members, a section by an object that
   gives its own chosen members.
3. `Settings.loads_overlay`: every text of such an object is loaded as the overlay, or refused for
   what is wrong with the overlay. A text in which a known member is given twice is malformed.
-/

namespace FlowSteer

open Json

/-! ## Members over defaults -/

/-- The chosen members over the defaults. -/
def CoalesceSettings.overlay (settings : CoalesceSettings) (chosen : String → Bool) :
    CoalesceSettings :=
  let standard : CoalesceSettings := {}
  { initialUsecs := if chosen "initial_usecs" then settings.initialUsecs else standard.initialUsecs
    minUsecs := if chosen "min_usecs" then settings.minUsecs else standard.minUsecs
    maxUsecs := if chosen "max_usecs" then settings.maxUsecs else standard.maxUsecs
    highWater := if chosen "high_water" then settings.highWater else standard.highWater
    lowWater := if chosen "low_water" then settings.lowWater else standard.lowWater
    adaptive := if chosen "adaptive" then settings.adaptive else standard.adaptive
    tickIntervalMs :=
      if chosen "tick_interval_ms" then settings.tickIntervalMs else standard.tickIntervalMs }

/-- The chosen members over the defaults. -/
def HealthSettings.overlay (settings : HealthSettings) (chosen : String → Bool) :
    HealthSettings :=
  let standard : HealthSettings := {}
  { intervalMs := if chosen "interval_ms" then settings.intervalMs else standard.intervalMs
    failureThreshold :=
      if chosen "failure_threshold" then settings.failureThreshold else standard.failureThreshold
    degradedThreshold :=
      if chosen "degraded_threshold" then settings.degradedThreshold
      else standard.degradedThreshold }

/-- The chosen members over the defaults. -/
def FailoverSettings.overlay (settings : FailoverSettings) (chosen : String → Bool) :
    FailoverSettings :=
  let standard : FailoverSettings := {}
  { enabled := if chosen "enabled" then settings.enabled else standard.enabled
    maxFailoverCount :=
      if chosen "max_failover_count" then settings.maxFailoverCount else standard.maxFailoverCount
    recoveryWindowMs :=
      if chosen "recovery_window_ms" then settings.recoveryWindowMs else standard.recoveryWindowMs
    historyLen := if chosen "history_len" then settings.historyLen else standard.historyLen }

/-- The chosen members over the defaults. -/
def SchedulingSettings.overlay (settings : SchedulingSettings) (chosen : String → Bool) :
    SchedulingSettings :=
  let standard : SchedulingSettings := {}
  { adaptive := if chosen "adaptive" then settings.adaptive else standard.adaptive
    threshold := if chosen "threshold" then settings.threshold else standard.threshold
    intervalMs := if chosen "interval_ms" then settings.intervalMs else standard.intervalMs }

/-- The chosen members over the defaults. -/
def FlowSettings.overlay (settings : FlowSettings) (chosen : String → Bool) : FlowSettings :=
  let standard : FlowSettings := {}
  { maxFlowsPerQueue :=
      if chosen "max_flows_per_queue" then settings.maxFlowsPerQueue
      else standard.maxFlowsPerQueue
    idleTimeoutMs :=
      if chosen "idle_timeout_ms" then settings.idleTimeoutMs else standard.idleTimeoutMs
    agingIntervalMs :=
      if chosen "aging_interval_ms" then settings.agingIntervalMs else standard.agingIntervalMs }

/-- The chosen members over the defaults. -/
def PoolSettings.overlay (settings : PoolSettings) (chosen : String → Bool) : PoolSettings :=
  let standard : PoolSettings := {}
  { buffersPerNode :=
      if chosen "buffers_per_node" then settings.buffersPerNode else standard.buffersPerNode
    bufferSize := if chosen "buffer_size" then settings.bufferSize else standard.bufferSize }

/-- Which members of a settings file are written. -/
structure Selection where
  /-- Members of the file itself, sections among them. -/
  own : String → Bool
  /-- Members of a section. -/
  within : (part : String) → String → Bool

/-- The chosen members over the defaults, also inside each section that is chosen. -/
def Settings.overlay (settings : Settings) (selection : Selection) : Settings :=
  let standard : Settings := {}
  let own := selection.own
  { queueCount := if own "queue_count" then settings.queueCount else standard.queueCount
    maxQueues := if own "max_queues" then settings.maxQueues else standard.maxQueues
    numaAware := if own "numa_aware" then settings.numaAware else standard.numaAware
    numaNodes := if own "numa_nodes" then settings.numaNodes else standard.numaNodes
    processorCount :=
      if own "processor_count" then settings.processorCount else standard.processorCount
    completionChannelCapacity :=
      if own "completion_channel_capacity" then settings.completionChannelCapacity
      else standard.completionChannelCapacity
    completionBudget :=
      if own "completion_budget" then settings.completionBudget else standard.completionBudget
    coalesce :=
      if own "coalesce" then settings.coalesce.overlay (selection.within "coalesce")
      else standard.coalesce
    health :=
      if own "health" then settings.health.overlay (selection.within "health")
      else standard.health
    failover :=
      if own "failover" then settings.failover.overlay (selection.within "failover")
      else standard.failover
    scheduling :=
      if own "scheduling" then settings.scheduling.overlay (selection.within "scheduling")
      else standard.scheduling
    flows :=
      if own "flows" then settings.flows.overlay (selection.within "flows") else standard.flows
    pool :=
      if own "pool" then settings.pool.overlay (selection.within "pool") else standard.pool }

/-! ## Objects that give some members -/

namespace Json

/-- The names of the members of a record. -/
def names : Json → List String
  | object members => members.map fun member => String.ofList member.1
  | _ => []

/-- The member of a record under a name. -/
def member? (record : Json) (name : String) : Option Json :=
  match record with
  | object members => members.lookup name.toList
  | _ => none

/-- An object gives the chosen ones of some fields, each once, in any order and under its name
however that is spelled, and besides them only members that are no field. `Stands` says which
values may be written for a field. -/
def Gives (names : List String) (chosen : String → Bool) (Stands : String → Json → Prop)
    (value : Json) : Prop :=
  ∃ (members : List (List Char × Json)) (values : String → Json), value = object members ∧
    (∀ name ∈ names, chosen name = true → Stands name (values name)) ∧
    Arranges names ((names.filter chosen).map fun name => (name, values name)) members

/-- An object gives the chosen members of a record as they are. -/
def IsPart (chosen : String → Bool) (record value : Json) : Prop :=
  value.Gives record.names chosen fun name part => record.member? name = some part

/-- What may be written for a member: a part of it if it is a record, and any other value as it
is. -/
def StandsFor (chosen : String → Bool) (member part : Json) : Prop :=
  match member with
  | object members => (object members).IsPart chosen part
  | plain => part = plain

end Json

namespace Settings

/-- An object gives the selected members of some settings, and of each section the selected ones. -/
def IsPart (settings : Settings) (selection : Selection) (value : Json) : Prop :=
  value.Gives settings.toJson.names selection.own fun name part =>
    ∃ member, settings.toJson.member? name = some member ∧
      member.StandsFor (selection.within name) part

/-- A known member is given twice, in the file itself or in a section. -/
def RepeatsMember (value : Json) : Prop :=
  let known := ({} : Settings).toJson
  ∃ members, value = .object members ∧ (Repeats known.names members ∨
    ∃ body name part inner, (body, Json.object inner) ∈ members ∧
      unescape? body = some (String.toList name) ∧ known.member? name = some part ∧
      Repeats part.names inner)

end Settings

/-! ## Reading a part -/

namespace Json

variable {names : List String} {chosen : String → Bool} {value : Json}

@[simp] theorem names_ofMembers (members : List (String × Json)) :
    (ofMembers members).names = members.map Prod.fst := by
  show (members.map fun member => (member.1.toList, member.2)).map _ = _
  rw [List.map_map]
  apply List.map_congr_left
  intro member _
  exact String.ofList_toList

@[simp] theorem member?_ofMembers (members : List (String × Json)) (name : String) :
    (ofMembers members).member? name = members.lookup name := by
  show (members.map fun member => (member.1.toList, member.2)).lookup name.toList = _
  induction members with
  | nil => rfl
  | cons member rest ih =>
      rw [List.map_cons, List.lookup_cons, List.lookup_cons, ih]
      have same : (name.toList == member.1.toList) = (name == member.1) := by
        rw [Bool.eq_iff_iff, beq_iff_eq, beq_iff_eq, String.toList_inj]
      rw [same]

theorem member?_of_lookup {members : List (String × Json)} {name : String} {part : Json}
    (found : members.lookup name = some part) : (ofMembers members).member? name = some part :=
  (member?_ofMembers members name).trans found

theorem mem_of_member?_ofMembers {members : List (String × Json)} {name : String} {part : Json}
    (found : (ofMembers members).member? name = some part) : (name, part) ∈ members := by
  rw [member?_ofMembers] at found
  obtain ⟨before, after, rfl, -⟩ := List.lookup_eq_some_iff.1 found
  exact List.mem_append_right before List.mem_cons_self

/-- A member that may have been left out is looked up. -/
theorem lookup_filter_graph (values : String → Json) {name : String} (listed : name ∈ names) :
    ((names.filter chosen).map fun name => (name, values name)).lookup name =
      if chosen name then some (values name) else none := by
  by_cases isChosen : chosen name = true
  · rw [if_pos isChosen]
    exact List.lookup_graph values (List.mem_filter.2 ⟨listed, isChosen⟩)
  · rw [if_neg isChosen, List.lookup_eq_none_iff]
    intro member there
    obtain ⟨other, selected, rfl⟩ := List.mem_map.1 there
    rw [bne_iff_ne]
    rintro rfl
    exact isChosen (List.mem_filter.1 selected).2

/-- A field of an object that gives some fields is read from its value if it is chosen, and has its
default if it is not. -/
theorem Gives.exists_fields {Stands : String → Json → Prop}
    (gives : value.Gives names chosen Stands) (distinct : names.Nodup) (count : Nat) :
    ∃ (fields : Fields) (values : String → Json), value.fields? count = some fields ∧
      (∀ name ∈ names, chosen name = true → Stands name (values name)) ∧
      ∀ (α : Type) (position : Nat) (name : String) (read : Json → Option α) (default : α),
        name ∈ names → fields.withDefault position [name] read default =
          if chosen name then read (values name) else some default := by
  obtain ⟨members, values, rfl, stands, arranges⟩ := gives
  obtain ⟨fields, taken⟩ := arranges.exists_fields? count
  refine ⟨fields, values, taken, stands, ?_⟩
  intro α position name read default listed
  have once : (((names.filter chosen).map fun name => (name, values name)).map Prod.fst).Nodup := by
    have same : ((names.filter chosen).map fun name => (name, values name)).map Prod.fst =
        names.filter chosen := by
      rw [List.map_map]
      exact List.map_id _
    rw [same]
    exact distinct.filter _
  rw [arranges.withDefault_eq once taken listed, lookup_filter_graph values listed]
  split <;> rfl

/-- A choice between two values that are there. -/
theorem some_of_ite {α : Type} (condition : Prop) [Decidable condition] (first second : α) :
    (if condition then some first else some second) =
      some (if condition then first else second) :=
  (apply_ite some condition first second).symm

theorem none_of_none {α β : Type} (next : α → Option β) :
    ((none : Option α) >>= next) = none := rfl

theorem none_of_next {α β : Type} (first : Option α) {next : α → Option β}
    (lost : ∀ a, next a = none) : (first >>= next) = none := by
  cases first with
  | none => rfl
  | some a => exact lost a

theorem some_of_bind {α β : Type} {first : Option α} {next : α → Option β} {a : α} {b : β}
    (given : first = some a) (rest : next a = some b) : (first >>= next) = some b := by
  rw [given]
  exact rest

end Json

/-- An object that gives the chosen members of a value is read as these over the defaults. -/
def Overlays {α : Type} (toJson : α → Json) (ofJson? : Json → Option α)
    (overlay : α → (String → Bool) → α) : Prop :=
  ∀ value chosen part, (toJson value).IsPart chosen part →
    ofJson? part = some (overlay value chosen)

/-- A record is read in part when its names are told apart and what is made of its fields, each of
them from its member or with its default, is the overlay. -/
theorem Overlays.of_record {α : Type} {members : α → List (String × Json)} {count : Nat}
    {build : Fields → Option α} {overlay : α → (String → Bool) → α} {names : List String}
    (distinct : names.Nodup) (same : ∀ value, (members value).map Prod.fst = names)
    (built : ∀ value chosen fields,
      (∀ (β : Type) (position : Nat) (name : String) (read : Json → Option β) (default : β),
        name ∈ names → fields.withDefault position [name] read default =
          if chosen name then ((members value).lookup name).elim none read else some default) →
      build fields = some (overlay value chosen)) :
    Overlays (fun value => ofMembers (members value))
      (fun json => (json.fields? count).bind build) overlay := by
  intro value chosen part isPart
  unfold IsPart at isPart
  rw [names_ofMembers, same] at isPart
  obtain ⟨fields, values, taken, stands, looked⟩ := isPart.exists_fields distinct count
  show (part.fields? count).bind build = _
  rw [taken, Option.bind_some]
  apply built value chosen fields
  intro β position name read default listed
  rw [looked β position name read default listed]
  by_cases isChosen : chosen name = true
  · have found := stands name listed isChosen
    rw [member?_ofMembers] at found
    rw [if_pos isChosen, if_pos isChosen, found, Option.elim_some]
  · rw [if_neg isChosen, if_neg isChosen]

theorem CoalesceSettings.overlays : Overlays toJson ofJson? overlay := by
  have distinct : ["initial_usecs", "min_usecs", "max_usecs", "high_water", "low_water", "adaptive",
    "tick_interval_ms"].Nodup := by decide
  refine .of_record distinct (fun _ => rfl) ?_
  intro settings chosen fields looked
  simp [looked, List.lookup_cons, uint32?_ofNat, uint64?_ofNat, bool?_bool, some_of_ite, overlay]

theorem HealthSettings.overlays : Overlays toJson ofJson? overlay := by
  have distinct : ["interval_ms", "failure_threshold", "degraded_threshold"].Nodup := by decide
  refine .of_record distinct (fun _ => rfl) ?_
  intro settings chosen fields looked
  simp [looked, List.lookup_cons, uint64?_ofNat, some_of_ite, overlay]

theorem FailoverSettings.overlays : Overlays toJson ofJson? overlay := by
  have distinct : ["enabled", "max_failover_count", "recovery_window_ms", "history_len"].Nodup := by
    decide
  refine .of_record distinct (fun _ => rfl) ?_
  intro settings chosen fields looked
  simp [looked, List.lookup_cons, uint32?_ofNat, uint64?_ofNat, bool?_bool, some_of_ite, overlay]

theorem SchedulingSettings.overlays : Overlays toJson ofJson? overlay := by
  have distinct : ["adaptive", "threshold", "interval_ms"].Nodup := by decide
  refine .of_record distinct (fun _ => rfl) ?_
  intro settings chosen fields looked
  simp [looked, List.lookup_cons, uint64?_ofNat, bool?_bool, some_of_ite, overlay]

theorem FlowSettings.overlays : Overlays toJson ofJson? overlay := by
  have distinct : ["max_flows_per_queue", "idle_timeout_ms", "aging_interval_ms"].Nodup := by decide
  refine .of_record distinct (fun _ => rfl) ?_
  intro settings chosen fields looked
  simp [looked, List.lookup_cons, uint64?_ofNat, some_of_ite, overlay]

theorem PoolSettings.overlays : Overlays toJson ofJson? overlay := by
  have distinct : ["buffers_per_node", "buffer_size"].Nodup := by decide
  refine .of_record distinct (fun _ => rfl) ?_
  intro settings chosen fields looked
  simp [looked, List.lookup_cons, uint64?_ofNat, some_of_ite, overlay]

/-! ## Members given twice -/

/-- No object is read in which a name occurs twice. -/
def RefusesRepeats {α : Type} (names : List String) (ofJson? : Json → Option α) : Prop :=
  ∀ members, Repeats names members → ofJson? (.object members) = none

/-- A record refuses repeats when it is not made if one of its fields cannot be read. -/
theorem RefusesRepeats.of_record {α : Type} {count : Nat} {build : Fields → Option α}
    {names : List String}
    (needs : ∀ fields : Fields, ∀ name ∈ names,
      (∀ (β : Type) (position : Nat) (read : Json → Option β) (default : β),
        fields.withDefault position [name] read default = none) → build fields = none) :
    RefusesRepeats names (fun json => (json.fields? count).bind build) := by
  intro members repeats
  obtain ⟨name, listed, twice⟩ := repeats.exists_twice
  show ((Json.object members).fields? count).bind build = none
  cases taken : (Json.object members).fields? count with
  | none => rfl
  | some fields =>
      exact needs fields name listed fun β position read default =>
        (Spoils.of_twice read twice).withDefault taken position default

theorem CoalesceSettings.refusesRepeats :
    RefusesRepeats ({} : CoalesceSettings).toJson.names ofJson? := by
  refine .of_record ?_
  intro fields name listed lost
  simp only [toJson, names_ofMembers, List.map_cons, List.map_nil, List.mem_cons, List.not_mem_nil,
    or_false] at listed
  rcases listed with rfl | rfl | rfl | rfl | rfl | rfl | rfl <;>
    simp only [lost, Option.bind_eq_bind, Option.bind_none, Option.bind_fun_none]

theorem HealthSettings.refusesRepeats :
    RefusesRepeats ({} : HealthSettings).toJson.names ofJson? := by
  refine .of_record ?_
  intro fields name listed lost
  simp only [toJson, names_ofMembers, List.map_cons, List.map_nil, List.mem_cons, List.not_mem_nil,
    or_false] at listed
  rcases listed with rfl | rfl | rfl <;>
    simp only [lost, Option.bind_eq_bind, Option.bind_none, Option.bind_fun_none]

theorem FailoverSettings.refusesRepeats :
    RefusesRepeats ({} : FailoverSettings).toJson.names ofJson? := by
  refine .of_record ?_
  intro fields name listed lost
  simp only [toJson, names_ofMembers, List.map_cons, List.map_nil, List.mem_cons, List.not_mem_nil,
    or_false] at listed
  rcases listed with rfl | rfl | rfl | rfl <;>
    simp only [lost, Option.bind_eq_bind, Option.bind_none, Option.bind_fun_none]

theorem SchedulingSettings.refusesRepeats :
    RefusesRepeats ({} : SchedulingSettings).toJson.names ofJson? := by
  refine .of_record ?_
  intro fields name listed lost
  simp only [toJson, names_ofMembers, List.map_cons, List.map_nil, List.mem_cons, List.not_mem_nil,
    or_false] at listed
  rcases listed with rfl | rfl | rfl <;>
    simp only [lost, Option.bind_eq_bind, Option.bind_none, Option.bind_fun_none]

theorem FlowSettings.refusesRepeats :
    RefusesRepeats ({} : FlowSettings).toJson.names ofJson? := by
  refine .of_record ?_
  intro fields name listed lost
  simp only [toJson, names_ofMembers, List.map_cons, List.map_nil, List.mem_cons, List.not_mem_nil,
    or_false] at listed
  rcases listed with rfl | rfl | rfl <;>
    simp only [lost, Option.bind_eq_bind, Option.bind_none, Option.bind_fun_none]

theorem PoolSettings.refusesRepeats :
    RefusesRepeats ({} : PoolSettings).toJson.names ofJson? := by
  refine .of_record ?_
  intro fields name listed lost
  simp only [toJson, names_ofMembers, List.map_cons, List.map_nil, List.mem_cons, List.not_mem_nil,
    or_false] at listed
  rcases listed with rfl | rfl <;>
    simp only [lost, Option.bind_eq_bind, Option.bind_none, Option.bind_fun_none]

/-! ## The file itself -/

namespace Json

/-- Whatever may be written for a member is read as one value, which depends on what is chosen of
it. -/
def ReadAs {α : Type} (member : Json) (read : Json → Option α) (mine : (String → Bool) → α) :
    Prop :=
  ∀ chosen part, member.StandsFor chosen part → read part = some (mine chosen)

theorem readAs_word (word : UInt64) : (ofNat word.toNat).ReadAs uint64? fun _ => word := by
  rintro chosen part rfl
  exact uint64?_ofNat word

theorem readAs_bool (value : Bool) : (bool value).ReadAs bool? fun _ => value := by
  rintro chosen part rfl
  rfl

end Json

theorem Overlays.readAs {α : Type} {members : α → List (String × Json)}
    {ofJson? : Json → Option α} {overlay : α → (String → Bool) → α}
    (overlays : Overlays (fun value => ofMembers (members value)) ofJson? overlay) (value : α) :
    (ofMembers (members value)).ReadAs ofJson? (overlay value) :=
  fun chosen part stands => overlays value chosen part stands

namespace Settings

variable {settings : Settings} {selection : Selection} {value : Json}

theorem nodup_names (settings : Settings) : settings.toJson.names.Nodup := by
  have distinct : ["queue_count", "max_queues", "numa_aware", "numa_nodes", "processor_count",
    "completion_channel_capacity", "completion_budget", "coalesce", "health", "failover",
    "scheduling", "flows", "pool"].Nodup := by decide
  rw [toJson, names_ofMembers]
  exact distinct

/-- A part of some settings is read as these over the defaults. -/
theorem ofJson?_of_isPart (isPart : settings.IsPart selection value) :
    ofJson? value = some (settings.overlay selection) := by
  obtain ⟨fields, values, taken, stands, looked⟩ := isPart.exists_fields settings.nodup_names 13
  have field : ∀ {α : Type} {member : Json} {read : Json → Option α} {mine : (String → Bool) → α},
      member.ReadAs read mine → ∀ (position : Nat) (name : String) (default : α),
      settings.toJson.member? name = some member →
      fields.withDefault position [name] read default =
        some (if selection.own name then mine (selection.within name) else default) := by
    intro α member read mine reads position name default found
    have listed : name ∈ settings.toJson.names := by
      rw [toJson, names_ofMembers]
      exact List.mem_map_of_mem (mem_of_member?_ofMembers found)
    rw [looked α position name read default listed]
    by_cases isChosen : selection.own name = true
    · obtain ⟨other, same, stands⟩ := stands name listed isChosen
      rw [found] at same
      cases same
      rw [if_pos isChosen, if_pos isChosen, reads _ _ stands]
    · rw [if_neg isChosen, if_neg isChosen]
  have coalesce : settings.coalesce.toJson.ReadAs _ _ := CoalesceSettings.overlays.readAs _
  have health : settings.health.toJson.ReadAs _ _ := HealthSettings.overlays.readAs _
  have failover : settings.failover.toJson.ReadAs _ _ := FailoverSettings.overlays.readAs _
  have scheduling : settings.scheduling.toJson.ReadAs _ _ := SchedulingSettings.overlays.readAs _
  have flows : settings.flows.toJson.ReadAs _ _ := FlowSettings.overlays.readAs _
  have pool : settings.pool.toJson.ReadAs _ _ := PoolSettings.overlays.readAs _
  unfold ofJson?
  rw [taken]
  refine some_of_bind rfl ?_
  refine some_of_bind (field (readAs_word settings.queueCount) 0
    "queue_count" _ (member?_of_lookup rfl)) ?_
  refine some_of_bind (field (readAs_word settings.maxQueues) 1
    "max_queues" _ (member?_of_lookup rfl)) ?_
  refine some_of_bind (field (readAs_bool settings.numaAware) 2
    "numa_aware" _ (member?_of_lookup rfl)) ?_
  refine some_of_bind (field (readAs_word settings.numaNodes) 3
    "numa_nodes" _ (member?_of_lookup rfl)) ?_
  refine some_of_bind (field (readAs_word settings.processorCount) 4
    "processor_count" _ (member?_of_lookup rfl)) ?_
  refine some_of_bind (field (readAs_word settings.completionChannelCapacity) 5
    "completion_channel_capacity" _ (member?_of_lookup rfl)) ?_
  refine some_of_bind (field (readAs_word settings.completionBudget) 6
    "completion_budget" _ (member?_of_lookup rfl)) ?_
  refine some_of_bind (field coalesce 7 "coalesce" _ (member?_of_lookup rfl)) ?_
  refine some_of_bind (field health 8 "health" _ (member?_of_lookup rfl)) ?_
  refine some_of_bind (field failover 9 "failover" _ (member?_of_lookup rfl)) ?_
  refine some_of_bind (field scheduling 10 "scheduling" _ (member?_of_lookup rfl)) ?_
  refine some_of_bind (field flows 11 "flows" _ (member?_of_lookup rfl)) ?_
  refine some_of_bind (field pool 12 "pool" _ (member?_of_lookup rfl)) ?_
  rfl

/-- No settings are read in which a known member of the file itself occurs twice. -/
theorem refusesRepeats : RefusesRepeats ({} : Settings).toJson.names ofJson? := by
  refine .of_record ?_
  intro fields name listed lost
  simp only [toJson, names_ofMembers, List.map_cons, List.map_nil, List.mem_cons, List.not_mem_nil,
    or_false] at listed
  rcases listed with
      rfl | rfl | rfl | rfl | rfl | rfl | rfl | rfl | rfl | rfl | rfl | rfl | rfl
  -- One of the fields is not read, and nothing behind it matters.
  all_goals
    rw [lost]
    repeat first
      | with_reducible exact none_of_none _
      | refine none_of_next _ fun _ => ?_

/-- No settings are read in which a member of a section occurs twice. -/
theorem ofJson?_of_repeats_within {members inner : List (List Char × Json)} {body : List Char}
    {name : String} {part : Json} (there : (body, Json.object inner) ∈ members)
    (spelled : unescape? body = some name.toList)
    (known : ({} : Settings).toJson.member? name = some part)
    (repeats : Repeats part.names inner) : ofJson? (.object members) = none := by
  have given : Json.object inner ∈ valuesFor [name] members :=
    mem_valuesFor there spelled List.mem_cons_self
  unfold ofJson?
  cases taken : (Json.object members).fields? 13 with
  | none => rfl
  | some fields =>
      rw [Option.bind_eq_bind, Option.bind_some]
      have lost : ∀ {α : Type} {ofJson? : Json → Option α}, RefusesRepeats part.names ofJson? →
          ∀ (position : Nat) (default : α),
            fields.withDefault position [name] ofJson? default = none :=
        fun refuses position default =>
          (Spoils.of_refused given (refuses inner repeats)).withDefault taken position default
      -- A member that is no section has no members of its own.
      have record : part.names ≠ [] := by
        obtain ⟨member, listed, -⟩ := repeats
        exact List.ne_nil_of_mem listed
      have listed := mem_of_member?_ofMembers known
      simp only [List.mem_cons, Prod.mk.injEq, List.not_mem_nil, or_false] at listed
      rcases listed with
          ⟨-, rfl⟩ | ⟨-, rfl⟩ | ⟨-, rfl⟩ | ⟨-, rfl⟩ | ⟨-, rfl⟩ | ⟨-, rfl⟩ | ⟨-, rfl⟩ |
          ⟨rfl, rfl⟩ | ⟨rfl, rfl⟩ | ⟨rfl, rfl⟩ | ⟨rfl, rfl⟩ | ⟨rfl, rfl⟩ | ⟨rfl, rfl⟩
      iterate 7 exact absurd rfl record
      on_goal 1 => rw [lost CoalesceSettings.refusesRepeats]
      on_goal 2 => rw [lost HealthSettings.refusesRepeats]
      on_goal 3 => rw [lost FailoverSettings.refusesRepeats]
      on_goal 4 => rw [lost SchedulingSettings.refusesRepeats]
      on_goal 5 => rw [lost FlowSettings.refusesRepeats]
      on_goal 6 => rw [lost PoolSettings.refusesRepeats]
      all_goals
        repeat first
          | with_reducible exact none_of_none _
          | refine none_of_next _ fun _ => ?_

theorem ofJson?_of_repeatsMember (repeats : RepeatsMember value) : ofJson? value = none := by
  obtain ⟨members, rfl, own | ⟨body, name, part, inner, there, spelled, known, within⟩⟩ := repeats
  · exact refusesRepeats members own
  · exact ofJson?_of_repeats_within there spelled known within

/-- A text that gives the selected members of some settings is loaded as these over the defaults,
or refused for what is wrong with them. A text that gives a known member twice is malformed. -/
theorem loads_overlay :
    (∀ (settings : Settings) (selection : Selection) (value : Json) (text : List Char),
      settings.IsPart selection value → Spells text value.tokens →
      loadFile (some (String.ofList text).toUTF8) =
        (settings.overlay selection).validate.map fun _ => settings.overlay selection) ∧
    ∀ (value : Json) (text : List Char), RepeatsMember value → Spells text value.tokens →
      ∃ reason, loadFile (some (String.ofList text).toUTF8) = .error (.malformed reason) := by
  constructor
  · intro settings selection value text isPart spells
    rw [loadFile_toUTF8, load, parse?_of_spells spells, Option.bind_some, ofJson?_of_isPart isPart]
    simp only []
    cases (settings.overlay selection).validate <;> rfl
  · intro value text repeats spells
    rw [loadFile_toUTF8, load, parse?_of_spells spells, Option.bind_some,
      ofJson?_of_repeatsMember repeats]
    exact ⟨_, rfl⟩

/-- Two members out of order and around an unknown one, a section of which one member is given and a
number under a name with an escape; and a section that is given twice. -/
theorem loads_overlay_of_two_members :
    loadFile (some (String.ofList
      "\x7b\"failover\" : \x7b\"enabled\":false\x7d,\n\"x\":[],\"queue_c\\u006funt\":3\x7d".toList
      ).toUTF8) = .ok { queueCount := 3, failover := { enabled := false } } ∧
    ∃ reason, loadFile (some (String.ofList
      "\x7b\"pool\":\x7b\x7d,\"queue_count\":1,\"pool\":0\x7d".toList).toUTF8) =
        .error (.malformed reason) := by
  have isSection : ({ enabled := false } : FailoverSettings).toJson.IsPart (· == "enabled")
      (.object [("enabled".toList, .bool false)]) := by
    refine ⟨_, fun _ => .bool false, rfl, ?_, [("enabled".toList, .bool false)], [], .refl _, ?_,
      ?_⟩
    · simp [FailoverSettings.toJson, List.lookup_cons]
    · simp [FailoverSettings.toJson, IsWritten]
      rfl
    · simp
  obtain ⟨value, isPart, spells⟩ : ∃ value : Json,
      ({ queueCount := 3, failover := { enabled := false } } : Settings).IsPart
        ⟨fun name => name == "queue_count" || name == "failover", fun _ name => name == "enabled"⟩
        value ∧
      Spells
        "\x7b\"failover\" : \x7b\"enabled\":false\x7d,\n\"x\":[],\"queue_c\\u006funt\":3\x7d".toList
        value.tokens := by
    refine ⟨.object [("failover".toList, .object [("enabled".toList, .bool false)]),
      (['x'], .array []), ("queue_c\\u006funt".toList, .number ['3'])], ?_,
      spells_of_tokens? (by with_unfolding_all rfl)⟩
    refine ⟨_, fun name =>
        if name = "failover" then .object [("enabled".toList, .bool false)] else .number ['3'],
      rfl, ?_, [("queue_c\\u006funt".toList, .number ['3']),
        ("failover".toList, .object [("enabled".toList, .bool false)])], [(['x'], .array [])],
      ?_, ?_, ?_⟩
    · intro name listed chosen
      have two : name = "queue_count" ∨ name = "failover" := by simpa using chosen
      rcases two with rfl | rfl
      · refine ⟨.number ['3'], ?_, by simp [StandsFor]⟩
        rw [toJson, member?_ofMembers, List.lookup_cons_self]
        rfl
      · refine ⟨({ enabled := false } : FailoverSettings).toJson, ?_, isSection⟩
        rw [toJson, member?_ofMembers]
        simp only [List.lookup_cons, String.reduceBEq]
    · show List.Perm ([_, _] ++ [_]) ([_] ++ [_, _])
      exact List.perm_append_comm
    · rw [toJson, names_ofMembers]
      exact .cons ⟨rfl, rfl⟩ (.cons ⟨rfl, rfl⟩ .nil)
    · rw [toJson, names_ofMembers]
      exact List.forall_mem_singleton.2 ⟨"x", rfl, by decide⟩
  have valid : (({ queueCount := 3, failover := { enabled := false } } : Settings).overlay
      ⟨fun name => name == "queue_count" || name == "failover",
        fun _ name => name == "enabled"⟩).validate = .ok () := by decide
  have loaded := loads_overlay.1 _ _ _ _ isPart spells
  rw [valid] at loaded
  have repeats : RepeatsMember (.object [("pool".toList, .object []),
      ("queue_count".toList, .number ['1']), ("pool".toList, .number ['0'])]) :=
    ⟨_, rfl, .inl ⟨"pool", by decide, by decide⟩⟩
  exact ⟨loaded, loads_overlay.2 _ _ repeats (spells_of_tokens? (by with_unfolding_all rfl))⟩

end Settings

end FlowSteer
