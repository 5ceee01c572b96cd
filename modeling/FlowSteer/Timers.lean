import FlowSteer.Word

/-!
# Timers

Each periodic duty has a timer that carries the time at which it fires next. A timer that is due
fires once, however late, and is armed again one period from then.
-/

namespace FlowSteer

/-- The periodic duties of a control plane. -/
inductive Duty where
  | healthCheck
  | adaptiveScheduling
  | coalesce
  | flowAging
deriving DecidableEq, Inhabited

namespace Duty

/-- The order in which duties are done that are due together. -/
def order : List Duty := [healthCheck, adaptiveScheduling, coalesce, flowAging]

/-- Name of the duty. -/
def label : Duty → String
  | healthCheck => "health_check"
  | adaptiveScheduling => "adaptive_scheduling"
  | coalesce => "coalesce"
  | flowAging => "flow_aging"

/-- The duty with a given name. -/
def ofLabel? (text : String) : Option Duty := order.find? (·.label == text)

end Duty

/-- The timer of a duty. -/
structure Timer where
  duty : Duty
  period : Nat
  /-- Time at which the timer fires next. -/
  deadline : Nat
deriving DecidableEq, Inhabited

namespace Timer

/-- A timer that fires one period from now; a period is at least 1. -/
def arm (duty : Duty) (period now : Nat) : Timer where
  duty
  period := max period 1
  deadline := addSaturating now (max period 1)

/-- Is the timer due. -/
def isDue (timer : Timer) (now : Nat) : Bool := timer.deadline ≤ now

/-- The timer after the time `now`: armed again if it was due. -/
def fire (timer : Timer) (now : Nat) : Timer :=
  if timer.isDue now then { timer with deadline := addSaturating now timer.period } else timer

/-- The timer with another period; its deadline moves closer, but never away. -/
def setPeriod (timer : Timer) (period now : Nat) : Timer :=
  { timer with
    period := max period 1
    deadline := min timer.deadline (addSaturating now (max period 1)) }

end Timer

/-- The timers of some duties, one for each. -/
structure Timers where
  armed : List Timer := []
deriving DecidableEq, Inhabited

namespace Timers

/-- The timer of a duty. -/
def timer? (timers : Timers) (duty : Duty) : Option Timer :=
  timers.armed.find? (·.duty == duty)

/-- Changes the timer of a duty, if there is one. -/
def modify (timers : Timers) (duty : Duty) (change : Timer → Timer) : Timers :=
  { armed := timers.armed.map fun timer => if timer.duty = duty then change timer else timer }

/-- Arms the timer of a duty anew. -/
def schedule (timers : Timers) (duty : Duty) (period now : Nat) : Timers :=
  if (timers.timer? duty).isSome then timers.modify duty fun _ => .arm duty period now
  else { armed := timers.armed ++ [.arm duty period now] }

/-- Changes the period of a duty. -/
def setPeriod (timers : Timers) (duty : Duty) (period now : Nat) : Timers :=
  timers.modify duty (·.setPeriod period now)

/-- Fires the timers that are due and returns their duties in the fixed order. -/
def due (timers : Timers) (now : Nat) : List Duty × Timers :=
  (Duty.order.filter fun duty => (timers.timer? duty).any (·.isDue now),
    { armed := timers.armed.map (·.fire now) })

/-- The earliest deadline. -/
def nextDeadline (timers : Timers) : Option Nat := (timers.armed.map (·.deadline)).min?

end Timers

end FlowSteer
