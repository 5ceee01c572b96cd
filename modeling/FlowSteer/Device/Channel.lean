/-!
# Event channels

A completion vector signals its queue through a channel with room for a fixed number of events.
A full channel has a signal waiting already, so a further one is not needed.
-/

namespace FlowSteer

/-- A channel of completion events. -/
structure Channel where
  capacity : Nat
  /-- Events that wait to be taken. -/
  waiting : Nat := 0
  /-- Is there still someone to take them. -/
  isOpen : Bool := true
deriving DecidableEq, Inhabited

namespace Channel

/-- Bytes of the place of an event. -/
def slotBytes : Nat := 16

/-- Signals an event; false only when no one is there to take it. -/
def notify (channel : Channel) : Bool × Channel :=
  if !channel.isOpen then (false, channel)
  else if channel.waiting < channel.capacity then
    (true, { channel with waiting := channel.waiting + 1 })
  else (true, channel)

/-- Takes an event, if one waits. -/
def receive (channel : Channel) : Bool × Channel :=
  if channel.isOpen && 0 < channel.waiting then
    (true, { channel with waiting := channel.waiting - 1 })
  else (false, channel)

/-- Takes all events that wait, and returns how many. -/
def receiveAll (channel : Channel) : Nat × Channel :=
  if channel.isOpen then (channel.waiting, { channel with waiting := 0 }) else (0, channel)

/-- The receiving side goes away. -/
def close (channel : Channel) : Channel := { channel with isOpen := false }

end Channel

end FlowSteer
