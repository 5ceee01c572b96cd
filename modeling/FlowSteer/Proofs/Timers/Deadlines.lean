import FlowSteer.Timers

/-!
# Deadlines

`timer?` is the view of the timers: each operation is described by the timer that a duty has after
it (`timer?_schedule`, `timer?_setPeriod`, `timer?_due`). A timer that fires is armed as if it were
new (`Timer.fire_arm`), so the timer of a duty is told by its period and by the time at which it was
armed last.

`Timers.Tidy`: no duty has two timers, and no period is zero.
-/

namespace FlowSteer

theorem Duty.mem_order (duty : Duty) : duty ∈ Duty.order := by
  cases duty <;> decide

namespace Timer

theorem isDue_iff {timer : Timer} {now : Nat} : timer.isDue now = true ↔ timer.deadline ≤ now :=
  decide_eq_true_iff

@[simp] theorem duty_fire (timer : Timer) (now : Nat) : (timer.fire now).duty = timer.duty := by
  unfold fire
  split <;> rfl

@[simp] theorem period_fire (timer : Timer) (now : Nat) :
    (timer.fire now).period = timer.period := by
  unfold fire
  split <;> rfl

theorem fire_of_lt {timer : Timer} {now : Nat} (early : now < timer.deadline) :
    timer.fire now = timer :=
  if_neg fun due => Nat.not_le.2 early (isDue_iff.1 due)

/-- A timer is not due at the time at which it has fired, but for the end of time. -/
theorem lt_deadline_fire {timer : Timer} {now : Nat} (positive : 0 < timer.period)
    (fits : now < wordMax) : now < (timer.fire now).deadline := by
  unfold fire addSaturating
  by_cases due : timer.isDue now = true
  · rw [if_pos due]
    show now < min (now + timer.period) wordMax
    omega
  · rw [if_neg due]
    exact Nat.not_le.1 (mt isDue_iff.2 due)

/-- A timer that was armed at some time is due when its period has passed, but for the end of
time. -/
theorem isDue_arm_iff {duty : Duty} {period last now : Nat} (fits : now < wordMax) :
    (arm duty period last).isDue now = true ↔ last + max period 1 ≤ now := by
  rw [isDue_iff]
  show min (last + max period 1) wordMax ≤ now ↔ _
  omega

/-- Firing is arming anew. -/
theorem fire_arm {duty : Duty} {period last now : Nat} :
    (arm duty period last).fire now =
      arm duty period (if (arm duty period last).isDue now then now else last) := by
  unfold fire
  split <;> rfl

/-- A new period does not put a timer off. -/
theorem deadline_setPeriod_le (timer : Timer) (period now : Nat) :
    (timer.setPeriod period now).deadline ≤ timer.deadline := Nat.min_le_left _ _

/-- A timer with a new period fires within this period. -/
theorem deadline_setPeriod_le_add (timer : Timer) {period : Nat} (positive : 0 < period)
    (now : Nat) : (timer.setPeriod period now).deadline ≤ now + period := by
  calc (timer.setPeriod period now).deadline
      ≤ addSaturating now (max period 1) := Nat.min_le_right _ _
    _ ≤ now + max period 1 := Nat.min_le_left _ _
    _ = now + period := by rw [Nat.max_eq_left positive]

end Timer

namespace Timers

variable {timers : Timers}

/-- The duties that have a timer. -/
def duties (timers : Timers) : List Duty := timers.armed.map (·.duty)

/-! ## The timer of a duty -/

theorem timer?_map (timers : Timers) {change : Timer → Timer}
    (same : ∀ timer, (change timer).duty = timer.duty) (duty : Duty) :
    timer? { armed := timers.armed.map change } duty = (timers.timer? duty).map change := by
  unfold timer?
  rw [List.find?_map]
  congr 2
  funext timer
  rw [Function.comp_apply, same]

/-- A change of the timer of a duty that leaves it the timer of this duty leaves every timer the
timer of its duty. -/
theorem duty_modified {duty : Duty} {change : Timer → Timer}
    (same : ∀ timer, timer.duty = duty → (change timer).duty = duty) (timer : Timer) :
    (if timer.duty = duty then change timer else timer).duty = timer.duty := by
  split
  · rename_i here
    rw [same timer here, here]
  · rfl

theorem timer?_modify (timers : Timers) (duty other : Duty) {change : Timer → Timer}
    (same : ∀ timer, timer.duty = duty → (change timer).duty = duty) :
    (timers.modify duty change).timer? other =
      (timers.timer? other).map fun timer => if timer.duty = duty then change timer else timer :=
  timers.timer?_map (duty_modified same) other

theorem timer?_setPeriod (timers : Timers) (duty : Duty) (period now : Nat) (other : Duty) :
    (timers.setPeriod duty period now).timer? other =
      (timers.timer? other).map fun timer =>
        if timer.duty = duty then timer.setPeriod period now else timer :=
  timers.timer?_modify duty other fun _ same => same

theorem timer?_due (timers : Timers) (now : Nat) (duty : Duty) :
    (timers.due now).2.timer? duty = (timers.timer? duty).map (·.fire now) :=
  timers.timer?_map (fun timer => timer.duty_fire now) duty

theorem duty_of_timer? {duty : Duty} {timer : Timer} (found : timers.timer? duty = some timer) :
    timer.duty = duty := by
  have passed := List.find?_some found
  exact beq_iff_eq.1 passed

theorem mem_of_timer? {duty : Duty} {timer : Timer} (found : timers.timer? duty = some timer) :
    timer ∈ timers.armed :=
  List.mem_of_find?_eq_some found

/-- Every duty that is listed has a timer. -/
theorem timer?_of_mem_duties {duty : Duty} (listed : duty ∈ timers.duties) :
    ∃ timer, timers.timer? duty = some timer := by
  obtain ⟨timer, member, same⟩ := List.mem_map.1 listed
  apply Option.isSome_iff_exists.1
  unfold timer?
  rw [List.find?_isSome]
  exact ⟨timer, member, beq_iff_eq.2 same⟩

theorem not_mem_duties_of_none {duty : Duty} (none : timers.timer? duty = none) :
    duty ∉ timers.duties := by
  intro listed
  obtain ⟨timer, found⟩ := timer?_of_mem_duties listed
  rw [none] at found
  cases found

/-- A duty that is scheduled has a new timer, and the timers of the others are as they were. -/
theorem timer?_schedule (timers : Timers) (duty : Duty) (period now : Nat) (other : Duty) :
    (timers.schedule duty period now).timer? other =
      if other = duty then some (.arm duty period now) else timers.timer? other := by
  unfold schedule
  cases found : timers.timer? duty with
  | none =>
      show (timers.armed ++ [Timer.arm duty period now]).find? (·.duty == other) = _
      rw [List.find?_append]
      by_cases same : other = duty
      · have missing : timers.armed.find? (·.duty == other) = none := same ▸ found
        rw [missing, if_pos same, Option.none_or, List.find?_singleton]
        exact if_pos (beq_iff_eq.2 same.symm)
      · have elsewhere : [Timer.arm duty period now].find? (·.duty == other) = none := by
          rw [List.find?_singleton]
          exact if_neg fun equal => same (beq_iff_eq.1 equal).symm
        rw [if_neg same, elsewhere, Option.or_none]
        rfl
  | some timer =>
      rw [Option.isSome_some, if_pos rfl]
      rw [timers.timer?_modify duty other fun _ _ => rfl]
      by_cases same : other = duty
      · rw [if_pos same, same, found, Option.map_some, if_pos (duty_of_timer? found)]
      · rw [if_neg same]
        cases kept : timers.timer? other with
        | none => rfl
        | some timer =>
            have different : timer.duty ≠ duty := by
              rw [duty_of_timer? kept]
              exact same
            rw [Option.map_some, if_neg different]

/-! ## What fires -/

/-- A duty fires when its timer is due. -/
theorem mem_due_iff {duty : Duty} {now : Nat} :
    duty ∈ (timers.due now).1 ↔
      ∃ timer, timers.timer? duty = some timer ∧ timer.isDue now = true := by
  unfold due
  rw [List.mem_filter, and_iff_right duty.mem_order, Option.any_eq_true]

/-- Before the first deadline nothing fires and nothing changes. -/
theorem due_of_lt {now : Nat} (early : ∀ timer ∈ timers.armed, now < timer.deadline) :
    timers.due now = ([], timers) := by
  have none : (timers.due now).1 = [] := by
    rw [List.eq_nil_iff_forall_not_mem]
    intro duty fired
    obtain ⟨timer, found, due⟩ := mem_due_iff.1 fired
    exact Nat.not_le.2 (early timer (mem_of_timer? found)) (Timer.isDue_iff.1 due)
  have unmoved : timers.armed.map (·.fire now) = timers.armed :=
    (List.map_congr_left fun timer member => Timer.fire_of_lt (early timer member)).trans
      (List.map_id' _)
  exact Prod.ext none (congrArg Timers.mk unmoved)

/-- The next deadline is the deadline of a timer, and there is none before it. -/
theorem nextDeadline_eq_some_iff {deadline : Nat} :
    timers.nextDeadline = some deadline ↔
      (∃ timer ∈ timers.armed, timer.deadline = deadline) ∧
        ∀ timer ∈ timers.armed, deadline ≤ timer.deadline := by
  unfold nextDeadline
  rw [List.min?_eq_some_iff, List.mem_map, List.forall_mem_map]

/-! ## One timer for each duty -/

theorem duties_due (timers : Timers) (now : Nat) : (timers.due now).2.duties = timers.duties := by
  show (timers.armed.map (·.fire now)).map (·.duty) = timers.armed.map (·.duty)
  rw [List.map_map]
  exact List.map_congr_left fun timer _ => timer.duty_fire now

/-- No duty has two timers, and no period is zero. -/
structure Tidy (timers : Timers) : Prop where
  single : timers.duties.Nodup
  positive : ∀ timer ∈ timers.armed, 0 < timer.period

namespace Tidy

theorem empty : Tidy {} where
  single := .nil
  positive := nofun

/-- Timers are changed, each for the same duty and with some period. -/
theorem map (tidy : timers.Tidy) {change : Timer → Timer}
    (duty : ∀ timer, (change timer).duty = timer.duty)
    (positive : ∀ timer, 0 < timer.period → 0 < (change timer).period) :
    Tidy { armed := timers.armed.map change } where
  single := by
    show ((timers.armed.map change).map (·.duty)).Nodup
    rw [List.map_map]
    exact (List.map_congr_left fun timer _ => duty timer) ▸ tidy.single
  positive := by
    intro timer member
    obtain ⟨old, there, rfl⟩ := List.mem_map.1 member
    exact positive old (tidy.positive old there)

theorem due (tidy : timers.Tidy) (now : Nat) : (timers.due now).2.Tidy :=
  tidy.map (fun timer => timer.duty_fire now) fun timer positive => by
    rw [timer.period_fire]
    exact positive

theorem modify (tidy : timers.Tidy) {duty : Duty} {change : Timer → Timer}
    (same : ∀ timer, timer.duty = duty → (change timer).duty = duty)
    (positive : ∀ timer, 0 < (change timer).period) : (timers.modify duty change).Tidy := by
  apply tidy.map (duty_modified same)
  intro timer already
  split
  · exact positive timer
  · exact already

theorem setPeriod (tidy : timers.Tidy) (duty : Duty) (period now : Nat) :
    (timers.setPeriod duty period now).Tidy :=
  tidy.modify (fun _ same => same) fun _ => Nat.le_max_right _ _

theorem schedule (tidy : timers.Tidy) (duty : Duty) (period now : Nat) :
    (timers.schedule duty period now).Tidy := by
  have armed : 0 < (Timer.arm duty period now).period := Nat.le_max_right _ _
  unfold Timers.schedule
  cases found : timers.timer? duty with
  | none =>
      constructor
      · show ((timers.armed ++ [Timer.arm duty period now]).map (·.duty)).Nodup
        rw [List.map_append, List.nodup_append]
        refine ⟨tidy.single, List.pairwise_singleton _ _, ?_⟩
        rintro first listed second new rfl
        have same : first = duty := List.mem_singleton.1 new
        exact not_mem_duties_of_none found (same ▸ listed)
      · intro timer member
        rcases List.mem_append.1 member with old | new
        · exact tidy.positive timer old
        · rw [List.mem_singleton.1 new]
          exact armed
  | some timer => exact tidy.modify (fun _ _ => rfl) fun _ => armed

end Tidy

end Timers

end FlowSteer
