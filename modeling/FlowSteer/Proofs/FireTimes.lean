import Mathlib.Data.List.Nodup
import FlowSteer.Proofs.Timers.Deadlines

/-!
# The times at which duties are done

A control plane asks its timers now and then which duties are due: late, again at the same time, in
no fixed distance. A duty is done as soon as it is asked for a period after it was done last, and
the times at which this happens follow from the times of asking alone, whatever is done to the
timers of other duties (`Timers.Rhythm`).

`Timers.keepsTime_run`: this holds after every run of the timers. There each duty has one timer,
each is named once and in its order, no time comes up twice, and none comes up in vain.
-/

namespace FlowSteer

/-- An operation on timers. -/
inductive TimersOp where
  | schedule (duty : Duty) (period now : Nat)
  | setPeriod (duty : Duty) (period now : Nat)
  | due (now : Nat)

namespace TimersOp

/-- Does the operation schedule a duty, or give it a period. -/
def sets (duty : Duty) : TimersOp → Bool
  | schedule other _ _ => other = duty
  | setPeriod other _ _ => other = duty
  | due _ => false

/-- The time at which the timers are asked what is due. -/
def asked? : TimersOp → Option Nat
  | due now => some now
  | _ => none

end TimersOp

/-- Of some times, the first that is a period after a given one, the next that is a period after
this one, and so on. -/
def spaced (period last : Nat) : List Nat → List Nat
  | [] => []
  | now :: rest =>
      if last + period ≤ now then now :: spaced period now rest else spaced period last rest

namespace Timers

/-- The timers after an operation. -/
def step (timers : Timers) : TimersOp → Timers
  | .schedule duty period now => timers.schedule duty period now
  | .setPeriod duty period now => timers.setPeriod duty period now
  | .due now => (timers.due now).2

/-- The timers after a sequence of operations. -/
def run (timers : Timers) (operations : List TimersOp) : Timers := operations.foldl step timers

/-- The time at which an operation finds that a duty is due. -/
def fired? (timers : Timers) (duty : Duty) (operation : TimersOp) : Option Nat :=
  operation.asked?.filter fun now => duty ∈ (timers.due now).1

/-- The times at which a duty is done in a run. -/
def firings (duty : Duty) : Timers → List TimersOp → List Nat
  | _, [] => []
  | timers, operation :: rest =>
      (timers.fired? duty operation).toList ++ (timers.step operation).firings duty rest

/-- When a duty is done from the time on at which it is scheduled. -/
structure Rhythm (timers : Timers) (duty : Duty) (period start : Nat) (later : List TimersOp) :
    Prop where
  /-- A period after it was done last. A period is at least 1. -/
  fires : ∀ now < wordMax,
    duty ∈ (((timers.schedule duty period start).run later).due now).1 ↔
      ((timers.schedule duty period start).firings duty later).getLastD start + max period 1 ≤ now
  /-- The other duties do not matter. -/
  times : (∀ now ∈ later.filterMap TimersOp.asked?, now < wordMax) →
    (timers.schedule duty period start).firings duty later =
      spaced (max period 1) start (later.filterMap TimersOp.asked?)

/-- What timers do in a state. -/
structure KeepsTime (timers : Timers) : Prop where
  single : timers.duties.Nodup
  rhythm : ∀ {duty period start later}, (∀ operation ∈ later, operation.sets duty = false) →
    timers.Rhythm duty period start later
  ordered : ∀ now, (timers.due now).1.Sublist Duty.order ∧ (timers.due now).1.Nodup
  /-- What was due at some time is not due again at this time. -/
  passed : ∀ now < wordMax, ∀ deadline,
    (timers.due now).2.nextDeadline = some deadline → now < deadline
  idle : ∀ now < wordMax, ∀ again ≤ now, (timers.due now).2.due again = ([], (timers.due now).2)
  /-- Something is due at the next deadline. -/
  awaited : ∀ deadline, timers.nextDeadline = some deadline → (timers.due deadline).1 ≠ []
  closer : ∀ changed period now {duty before}, timers.timer? duty = some before →
    ∃ after, (timers.setPeriod changed period now).timer? duty = some after ∧
      after.deadline ≤ before.deadline

variable {timers : Timers} {duty : Duty} {period last : Nat}

/-! ## The rhythm of a duty -/

theorem mem_due_iff_of_timer? {timer : Timer} (found : timers.timer? duty = some timer)
    (now : Nat) : duty ∈ (timers.due now).1 ↔ timer.isDue now = true := by
  rw [mem_due_iff, found]
  constructor
  · rintro ⟨_, same, due⟩
    cases same
    exact due
  · exact fun due => ⟨timer, rfl, due⟩

theorem fired?_of_timer? {timer : Timer} (found : timers.timer? duty = some timer)
    (operation : TimersOp) :
    timers.fired? duty operation = operation.asked?.filter (timer.isDue ·) := by
  unfold fired?
  congr 1
  funext now
  rw [Bool.eq_iff_iff, decide_eq_true_iff]
  exact mem_due_iff_of_timer? found now

/-- A timer stays armed from the last time at which it fired. -/
theorem timer?_step (armed : timers.timer? duty = some (.arm duty period last))
    {operation : TimersOp} (unset : operation.sets duty = false) :
    (timers.step operation).timer? duty =
      some (.arm duty period ((timers.fired? duty operation).getD last)) := by
  cases operation with
  | schedule other length now =>
      have different : duty ≠ other := fun same => of_decide_eq_false unset same.symm
      show (timers.schedule other length now).timer? duty = _
      rw [timer?_schedule, if_neg different, armed]
      rfl
  | setPeriod other length now =>
      have different : (Timer.arm duty period last).duty ≠ other :=
        fun same => of_decide_eq_false unset same.symm
      show (timers.setPeriod other length now).timer? duty = _
      rw [timer?_setPeriod, armed, Option.map_some, if_neg different]
      rfl
  | due now =>
      show (timers.due now).2.timer? duty = _
      rw [timer?_due, fired?_of_timer? armed, armed, Option.map_some, Timer.fire_arm,
        TimersOp.asked?, Option.filter_some]
      split <;> rfl

theorem timer?_run (armed : timers.timer? duty = some (.arm duty period last))
    {operations : List TimersOp} (unset : ∀ operation ∈ operations, operation.sets duty = false) :
    (timers.run operations).timer? duty =
      some (.arm duty period ((timers.firings duty operations).getLastD last)) := by
  induction operations generalizing timers last with
  | nil => exact armed
  | cons operation rest ih =>
      obtain ⟨here, there⟩ := List.forall_mem_cons.1 unset
      show ((timers.step operation).run rest).timer? duty = _
      rw [ih (timer?_step armed here) there, firings]
      cases timers.fired? duty operation with
      | none => rfl
      | some now => rw [Option.getD_some, Option.toList_some, List.singleton_append,
          List.getLastD_cons]

theorem firings_eq_spaced (armed : timers.timer? duty = some (.arm duty period last))
    {operations : List TimersOp} (unset : ∀ operation ∈ operations, operation.sets duty = false)
    (fits : ∀ now ∈ operations.filterMap TimersOp.asked?, now < wordMax) :
    timers.firings duty operations =
      spaced (max period 1) last (operations.filterMap TimersOp.asked?) := by
  induction operations generalizing timers last with
  | nil => rfl
  | cons operation rest ih =>
      obtain ⟨here, there⟩ := List.forall_mem_cons.1 unset
      have rearmed := timer?_step armed here
      unfold firings
      rw [fired?_of_timer? armed] at rearmed ⊢
      cases asked : operation.asked? with
      | none =>
          rw [List.filterMap_cons_none asked] at fits ⊢
          rw [asked] at rearmed
          exact ih rearmed there fits
      | some now =>
          rw [List.filterMap_cons_some asked] at fits ⊢
          obtain ⟨soon, fitting⟩ := List.forall_mem_cons.1 fits
          have due : (Timer.arm duty period last).isDue now = true ↔ last + max period 1 ≤ now :=
            Timer.isDue_arm_iff soon
          rw [asked, Option.filter_some] at rearmed
          rw [Option.filter_some, spaced]
          by_cases passed : last + max period 1 ≤ now
          · rw [if_pos (due.2 passed)] at rearmed ⊢
            rw [if_pos passed]
            exact congrArg (now :: ·) (ih rearmed there fitting)
          · rw [if_neg (mt due.1 passed)] at rearmed ⊢
            rw [if_neg passed]
            exact ih rearmed there fitting

theorem rhythm (timers : Timers) {start : Nat} {later : List TimersOp}
    (unset : ∀ operation ∈ later, operation.sets duty = false) :
    timers.Rhythm duty period start later := by
  have armed : (timers.schedule duty period start).timer? duty = some (.arm duty period start) := by
    rw [timer?_schedule, if_pos rfl]
  constructor
  · intro now fits
    rw [mem_due_iff_of_timer? (timer?_run armed unset), Timer.isDue_arm_iff fits]
  · exact firings_eq_spaced armed unset

/-! ## The timers of all duties -/

namespace Tidy

theorem step (tidy : timers.Tidy) (operation : TimersOp) : (timers.step operation).Tidy := by
  cases operation with
  | schedule duty period now => exact tidy.schedule duty period now
  | setPeriod duty period now => exact tidy.setPeriod duty period now
  | due now => exact tidy.due now

theorem run (tidy : timers.Tidy) (operations : List TimersOp) : (timers.run operations).Tidy := by
  induction operations generalizing timers with
  | nil => exact tidy
  | cons operation rest ih => exact ih (tidy.step operation)

/-- Every timer is the timer of its duty. -/
theorem timer?_of_mem (tidy : timers.Tidy) {timer : Timer} (member : timer ∈ timers.armed) :
    timers.timer? timer.duty = some timer := by
  obtain ⟨other, found⟩ := timer?_of_mem_duties (List.mem_map_of_mem (f := Timer.duty) member)
  rw [found]
  congr 1
  exact List.inj_on_of_nodup_map tidy.single (mem_of_timer? found) member (duty_of_timer? found)

/-- Every timer that has been asked is due later. -/
theorem lt_deadline_due (tidy : timers.Tidy) {now : Nat} (fits : now < wordMax) :
    ∀ timer ∈ (timers.due now).2.armed, now < timer.deadline := by
  intro timer member
  obtain ⟨old, there, rfl⟩ := List.mem_map.1 member
  exact Timer.lt_deadline_fire (tidy.positive old there) fits

theorem due_nextDeadline_ne_nil (tidy : timers.Tidy) {deadline : Nat}
    (next : timers.nextDeadline = some deadline) : (timers.due deadline).1 ≠ [] := by
  obtain ⟨⟨timer, member, rfl⟩, -⟩ := nextDeadline_eq_some_iff.1 next
  apply List.ne_nil_of_mem (a := timer.duty)
  rw [mem_due_iff_of_timer? (tidy.timer?_of_mem member)]
  exact Timer.isDue_iff.2 (Nat.le_refl _)

theorem keepsTime (tidy : timers.Tidy) : timers.KeepsTime where
  single := tidy.single
  rhythm := timers.rhythm
  ordered := fun _ => ⟨List.filter_sublist, List.Nodup.filter _ (by decide)⟩
  passed := by
    intro now fits deadline next
    obtain ⟨⟨timer, member, rfl⟩, -⟩ := nextDeadline_eq_some_iff.1 next
    exact tidy.lt_deadline_due fits timer member
  idle := fun _ fits _ before =>
    due_of_lt fun timer member => Nat.lt_of_le_of_lt before (tidy.lt_deadline_due fits timer member)
  awaited := fun _ next => tidy.due_nextDeadline_ne_nil next
  closer := by
    intro changed period now duty before found
    rw [timer?_setPeriod, found]
    refine ⟨_, rfl, ?_⟩
    show (if before.duty = changed then before.setPeriod period now else before).deadline ≤ _
    split
    · exact before.deadline_setPeriod_le period now
    · exact Nat.le_refl _

end Tidy

/-- Timers keep time after every run. -/
theorem keepsTime_run (operations : List TimersOp) :
    (({} : Timers).run operations).KeepsTime :=
  (Tidy.empty.run operations).keepsTime

-- Asked late, the duty keeps the distance from the time of asking. Another one is done in between.
example :
    let timers := ({} : Timers).schedule .healthCheck 50 0
    let later : List TimersOp := [.due 10, .due 25, .schedule .flowAging 7 26, .due 34, .due 36]
    (timers.schedule .coalesce 10 0).firings .coalesce later = [10, 25, 36] ∧
      spaced 10 0 [10, 25, 34, 36] = [10, 25, 36] := by decide

end Timers

end FlowSteer
