import FlowSteer.Word

/-!
# The clock

Times are milliseconds from an arbitrary origin. The clock moves only when it is told to, and never
backwards until it runs over: its time is a 64-bit word.
-/

namespace FlowSteer

/-- A clock that is moved by hand. -/
structure Clock where
  /-- Milliseconds since the origin. -/
  now : Nat := 0
deriving DecidableEq, Inhabited

namespace Clock

/-- Moves forward by whole milliseconds. After the largest word the time starts again at zero. -/
def advance (clock : Clock) (millis : Nat) : Clock := { now := addWrapping clock.now millis }

/-- Moves forward by microseconds; a part of a millisecond is lost. -/
def advanceMicros (clock : Clock) (micros : Nat) : Clock := clock.advance (micros / 1000)

/-- Jumps to a time; a time in the past is ignored. -/
def set (clock : Clock) (time : Nat) : Clock := { now := max clock.now time }

end Clock

end FlowSteer
