import FlowSteer.Proofs.Json.Records
import FlowSteer.Settings.Text

/-!
# Settings files

Settings that are written to a file and read again are the same settings, field by field.

1. `Restores`: a value can be written, and is read off what was written. Every section does so, and
   with its sections the whole: `Settings.restores`.
2. `Settings.parse?_save`: the text of a file is read as the record that was written.
3. `Settings.reloads`: what was saved is loaded again when it is valid, and refused for what is
   wrong with it otherwise. Nothing that is not valid is ever loaded.
-/

namespace FlowSteer

open Json

/-! ## Sections -/

/-- Values of a type are written so that they can be read, and are read off what was written. -/
structure Restores {α : Type} (toJson : α → Json) (ofJson? : Json → Option α) : Prop where
  writable : ∀ value, (toJson value).Writable
  read : ∀ value, ofJson? (toJson value) = some value

/-- A record is restored when its names are told apart, its values are writable, and what is made of
its fields, looked up by name, is the value. -/
theorem Restores.of_record {α : Type} {members : α → List (String × Json)} {count : Nat}
    {build : Fields → Option α} {names : List String} (named : WellNamed names)
    (same : ∀ value, (members value).map Prod.fst = names)
    (writable : ∀ value, ∀ member ∈ members value, member.2.Writable)
    (built : ∀ value fields,
      (∀ (β : Type) (position : Nat) (name : String) (read : Json → Option β) (default : β),
        fields.withDefault position [name] read default =
          ((members value).lookup name).elim (some default) read) →
      build fields = some value) :
    Restores (fun value => ofMembers (members value))
      (fun json => (json.fields? count).bind build) := by
  constructor
  case writable =>
    exact fun value => writable_ofMembers ((same value).symm ▸ named) (writable value)
  case read =>
    intro value
    obtain ⟨fields, taken, looked⟩ := exists_fields count ((same value).symm ▸ named)
    rw [taken, Option.bind_some]
    exact built value fields looked

theorem CoalesceSettings.restores : Restores toJson ofJson? := by
  have named : WellNamed ["initial_usecs", "min_usecs", "max_usecs", "high_water", "low_water",
    "adaptive", "tick_interval_ms"] := by decide
  refine .of_record named (fun _ => rfl) ?_ ?_
  · simp [writable_ofNat, Writable]
  · intro settings fields looked
    simp [looked, List.lookup_cons, uint32?_ofNat, uint64?_ofNat, bool?_bool]

theorem HealthSettings.restores : Restores toJson ofJson? := by
  have named : WellNamed ["interval_ms", "failure_threshold", "degraded_threshold"] := by decide
  refine .of_record named (fun _ => rfl) ?_ ?_
  · simp [writable_ofNat]
  · intro settings fields looked
    simp [looked, List.lookup_cons, uint64?_ofNat]

theorem FailoverSettings.restores : Restores toJson ofJson? := by
  have named : WellNamed ["enabled", "max_failover_count", "recovery_window_ms", "history_len"] :=
    by decide
  refine .of_record named (fun _ => rfl) ?_ ?_
  · simp [writable_ofNat, Writable]
  · intro settings fields looked
    simp [looked, List.lookup_cons, uint32?_ofNat, uint64?_ofNat, bool?_bool]

theorem SchedulingSettings.restores : Restores toJson ofJson? := by
  have named : WellNamed ["adaptive", "threshold", "interval_ms"] := by decide
  refine .of_record named (fun _ => rfl) ?_ ?_
  · simp [writable_ofNat, Writable]
  · intro settings fields looked
    simp [looked, List.lookup_cons, uint64?_ofNat, bool?_bool]

theorem FlowSettings.restores : Restores toJson ofJson? := by
  have named : WellNamed ["max_flows_per_queue", "idle_timeout_ms", "aging_interval_ms"] := by
    decide
  refine .of_record named (fun _ => rfl) ?_ ?_
  · simp [writable_ofNat]
  · intro settings fields looked
    simp [looked, List.lookup_cons, uint64?_ofNat]

theorem PoolSettings.restores : Restores toJson ofJson? := by
  have named : WellNamed ["buffers_per_node", "buffer_size"] := by decide
  refine .of_record named (fun _ => rfl) ?_ ?_
  · simp [writable_ofNat]
  · intro settings fields looked
    simp [looked, List.lookup_cons, uint64?_ofNat]

namespace Settings

theorem restores : Restores toJson ofJson? := by
  have named : WellNamed ["queue_count", "max_queues", "numa_aware", "numa_nodes",
    "processor_count", "completion_channel_capacity", "completion_budget", "coalesce", "health",
    "failover", "scheduling", "flows", "pool"] := by decide
  refine .of_record named (fun _ => rfl) ?_ ?_
  · simp [writable_ofNat, Writable, CoalesceSettings.restores.writable,
      HealthSettings.restores.writable, FailoverSettings.restores.writable,
      SchedulingSettings.restores.writable, FlowSettings.restores.writable,
      PoolSettings.restores.writable]
  · intro settings fields looked
    simp [looked, List.lookup_cons, uint64?_ofNat, bool?_bool, CoalesceSettings.restores.read,
      HealthSettings.restores.read, FailoverSettings.restores.read,
      SchedulingSettings.restores.read, FlowSettings.restores.read, PoolSettings.restores.read]

/-! ## Files -/

/-- The text of a file is read as the settings that were written, valid or not. -/
theorem parse?_save (settings : Settings) :
    (parse? settings.save).bind ofJson? = some settings := by
  unfold save
  rw [parse?_render (restores.writable settings), Option.bind_some, restores.read]

theorem load_save (settings : Settings) :
    load settings.save = settings.validate.map fun _ => settings := by
  unfold load
  rw [parse?_save]
  simp only []
  cases settings.validate <;> rfl

theorem loadFile_toUTF8 (text : List Char) :
    loadFile (some (String.ofList text).toUTF8) = load text := by
  have decoded : String.fromUTF8? (String.ofList text).toUTF8 = some (String.ofList text) :=
    dif_pos (String.ofList text).isValidUTF8
  unfold loadFile
  rw [Option.bind_some, decoded]
  simp only [String.toList_ofList]

theorem validate_of_load {text : List Char} {settings : Settings}
    (loaded : load text = .ok settings) : settings.validate = .ok () := by
  unfold load at loaded
  cases read : (parse? text).bind ofJson? with
  | none => simp [read] at loaded
  | some other =>
      cases valid : other.validate with
      | error error => simp [read, valid] at loaded
      | ok _ =>
          simp only [read, valid, Except.ok.injEq] at loaded
          rw [← loaded, valid]

/-- A file that was saved is loaded as what it was saved from, or refused for it. -/
structure Reloads (settings : Settings) : Prop where
  /-- Valid settings come back, all of their fields. -/
  valid : settings.validate = .ok () →
    loadFile (some (String.ofList settings.save).toUTF8) = .ok settings
  /-- Others are refused with the error of their check, which is one of settings. -/
  invalid : ∀ {error}, settings.validate = .error error →
    loadFile (some (String.ofList settings.save).toUTF8) = .error error ∧
      ∃ problem : SettingsProblem, error = .badSettings problem.message

/-- Saved settings are reloaded, and no file is loaded as settings that are not valid. -/
theorem reloads : (∀ settings : Settings, Reloads settings) ∧
    ∀ {file : Option ByteArray} {settings : Settings}, loadFile file = .ok settings →
      settings.validate = .ok () := by
  constructor
  · intro settings
    constructor
    case valid =>
      intro valid
      rw [loadFile_toUTF8, load_save, valid]
      rfl
    case invalid =>
      intro error invalid
      rw [loadFile_toUTF8, load_save, invalid]
      refine ⟨rfl, ?_⟩
      unfold validate at invalid
      cases found : settings.problem? with
      | none => simp [found] at invalid
      | some problem =>
          simp only [found, Except.error.injEq] at invalid
          exact ⟨problem, invalid.symm⟩
  · intro file settings loaded
    unfold loadFile at loaded
    cases text : file.bind String.fromUTF8? with
    | none => simp [text] at loaded
    | some text =>
        rw [text] at loaded
        exact validate_of_load loaded

/-- The widest words, and a section in which nothing has its default. -/
theorem reloads_of_widest_words :
    let settings : Settings := {
      queueCount := 0xFFFFFFFFFFFFFFFF, maxQueues := 0xFFFFFFFFFFFFFFFF, numaAware := false
      failover := {
        enabled := false, maxFailoverCount := 0xFFFFFFFF
        recoveryWindowMs := 0xFFFFFFFFFFFFFFFF, historyLen := 0 } }
    let file := some (String.ofList settings.save).toUTF8
    loadFile file = .ok settings ∧ settings.validate = .ok () := by
  intro settings file
  have loaded : loadFile file = .ok settings := (reloads.1 settings).valid (by decide)
  exact ⟨loaded, reloads.2 loaded⟩

end Settings

end FlowSteer
