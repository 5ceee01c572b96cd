import FlowSteer.Settings.Problem
import FlowSteer.Timers

/-!
# Valid settings

Settings are valid when none of their problems is present. Valid settings have valid sections, their
counts agree with each other, and every duty has a period: `Settings.fits_of_valid`.
-/

namespace FlowSteer

theorem firstProblem_eq_none_iff {problems : List (Bool × SettingsProblem)} :
    firstProblem problems = none ↔ ∀ problem ∈ problems, problem.1 = false := by
  induction problems with
  | nil => simp [firstProblem]
  | cons first rest ih =>
      obtain ⟨present, problem⟩ := first
      cases present <;> simp [firstProblem, ih]

theorem CoalesceSettings.validate_eq_ok_iff {settings : CoalesceSettings} :
    settings.validate = .ok () ↔ ∀ problem ∈ settings.problems, problem.1 = false := by
  rw [← firstProblem_eq_none_iff]
  unfold validate
  cases firstProblem settings.problems <;> simp

theorem Settings.validate_eq_ok_iff {settings : Settings} :
    settings.validate = .ok () ↔ ∀ problem ∈ settings.problems, problem.1 = false := by
  rw [← firstProblem_eq_none_iff]
  unfold validate problem?
  cases firstProblem settings.problems <;> simp

/-- Valid settings have valid settings of coalescing. -/
theorem Settings.validate_coalesce {settings : Settings} (valid : settings.validate = .ok ()) :
    settings.coalesce.validate = .ok () := by
  rw [Settings.validate_eq_ok_iff] at valid
  rw [CoalesceSettings.validate_eq_ok_iff]
  intro problem member
  apply valid
  unfold Settings.problems
  exact List.mem_append_left _ (List.mem_append_right _ member)

/-- The period that the settings give to a duty. -/
def Settings.period (settings : Settings) : Duty → Nat
  | .healthCheck => settings.health.intervalMs.toNat
  | .adaptiveScheduling => settings.scheduling.intervalMs.toNat
  | .coalesce => settings.coalesce.tickIntervalMs.toNat
  | .flowAging => settings.flows.agingIntervalMs.toNat

/-- Counts of valid settings agree with each other, and no period is zero. -/
structure Settings.Fits (settings : Settings) : Prop where
  queues : settings.queueCount.toNat ≤ settings.maxQueues.toNat
  nodes : 0 < settings.numaNodes.toNat
  processors : 0 < settings.processorCount.toNat
  /-- Where nodes matter, each has a processor. -/
  homes : settings.numaAware = true → settings.numaNodes.toNat ≤ settings.processorCount.toNat
  periods : ∀ duty, 0 < settings.period duty

theorem Settings.fits_of_valid {settings : Settings} (valid : settings.validate = .ok ()) :
    settings.Fits := by
  rw [Settings.validate_eq_ok_iff] at valid
  simp only [Settings.problems, CoalesceSettings.problems, List.cons_append, List.nil_append,
    List.forall_mem_cons, Bool.or_eq_false_iff, Bool.and_eq_false_imp, beq_eq_false_iff_ne,
    decide_eq_false_iff_not, UInt64.not_lt] at valid
  obtain ⟨-, queues, ⟨nodes, processors⟩, homes, -, -, -, tick, health, -, ⟨pass, aging⟩, -⟩ :=
    valid
  have positive : ∀ {word : UInt64}, word ≠ 0 → 0 < word.toNat :=
    fun nonzero => UInt64.lt_iff_toNat_lt.1 (UInt64.pos_iff_ne_zero.2 nonzero)
  constructor
  case queues => exact UInt64.le_iff_toNat_le.1 queues
  case nodes => exact positive nodes
  case processors => exact positive processors
  case homes => exact fun aware => UInt64.le_iff_toNat_le.1 (homes aware)
  case periods =>
    intro duty
    cases duty with
    | healthCheck => exact positive health
    | adaptiveScheduling => exact positive pass
    | coalesce => exact positive tick
    | flowAging => exact positive aging

end FlowSteer
