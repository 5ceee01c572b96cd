import FlowSteer.Settings.Problem
import FlowSteer.Word

/-!
# Coalescing of interrupts

The interval between interrupts follows the load: each tick halves it under high load and doubles
it under low load, always within its bounds.
-/

namespace FlowSteer

/-- Which way a tick moved the interval. -/
inductive IntervalMove where
  | halved
  | doubled
  | held
deriving DecidableEq, Inhabited

/-- What one tick did. -/
structure IntervalStep where
  previous : Nat
  current : Nat
  move : IntervalMove
deriving DecidableEq, Inhabited

/-- Did the interval change. -/
def IntervalStep.changed (step : IntervalStep) : Bool := step.previous != step.current

/-- The interval in force, with the settings that steer it. -/
structure Coalescer where
  settings : CoalesceSettings
  /-- Interval in microseconds. -/
  interval : Nat
deriving DecidableEq, Inhabited

namespace CoalesceSettings

/-- An interval moved into the bounds. -/
def bound (settings : CoalesceSettings) (usecs : Nat) : Nat :=
  clamp settings.minUsecs.toNat settings.maxUsecs.toNat usecs

/-- Twice a 32-bit number, or the largest one. -/
def doubled (usecs : Nat) : Nat := min (usecs * 2) (wordSize32 - 1)

/-- The interval after a tick at some load. -/
def next (settings : CoalesceSettings) (pending interval : Nat) : Nat :=
  if !settings.adaptive then interval
  else if settings.highWater.toNat < pending then max (interval / 2) settings.minUsecs.toNat
  else if pending < settings.lowWater.toNat then min (doubled interval) settings.maxUsecs.toNat
  else interval

end CoalesceSettings

namespace Coalescer

/-- Starts at the initial interval, moved into the bounds. -/
def start (settings : CoalesceSettings) : Except ControlError Coalescer :=
  match settings.validate with
  | .error error => .error error
  | .ok () => .ok { settings, interval := settings.bound settings.initialUsecs.toNat }

/-- Sets the interval by hand, moved into the bounds. -/
def setInterval (coalescer : Coalescer) (usecs : Nat) : Coalescer :=
  { coalescer with interval := coalescer.settings.bound usecs }

/-- Puts other settings in force and moves the interval into their bounds; settings that cannot
be run with are refused. -/
def setSettings (coalescer : Coalescer) (settings : CoalesceSettings) :
    Except ControlError Unit × Coalescer :=
  match settings.validate with
  | .error error => (.error error, coalescer)
  | .ok () => (.ok (), { settings, interval := settings.bound coalescer.interval })

/-- One step of adaptation to the load. -/
def tick (coalescer : Coalescer) (pending : Nat) : IntervalStep × Coalescer :=
  let previous := coalescer.interval
  let current := coalescer.settings.next pending previous
  let move :=
    if current < previous then .halved else if previous < current then .doubled else .held
  ({ previous, current, move }, { coalescer with interval := current })

end Coalescer

end FlowSteer
