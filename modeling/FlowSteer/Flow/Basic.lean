import FlowSteer.Direction
import FlowSteer.Word

/-!
# Flows

Traffic and activity of one flow, as its queue keeps them.
-/

namespace FlowSteer

/-- Traffic and activity of one flow. -/
structure Flow where
  id : FlowId
  /-- Packets in both directions. -/
  packets : Nat := 0
  /-- Bytes in both directions. -/
  bytes : Nat := 0
  latencySum : Nat := 0
  latencySamples : Nat := 0
  firstSeen : Nat
  lastSeen : Nat
deriving DecidableEq, Inhabited

namespace Flow

/-- A flow without traffic. -/
def fresh (id : FlowId) (now : Nat) : Flow where
  id
  firstSeen := now
  lastSeen := now

/-- Counts one packet. -/
def addPacket (flow : Flow) (bytes now : Nat) : Flow :=
  { flow with
    packets := flow.packets + 1
    bytes := flow.bytes + bytes
    lastSeen := max flow.lastSeen now }

/-- Counts one latency sample; the sum stops at the largest word. -/
def addLatency (flow : Flow) (latency : Nat) : Flow :=
  { flow with
    latencySum := addSaturating flow.latencySum latency
    latencySamples := flow.latencySamples + 1 }

/-- Whole part of the average latency, 0 without samples. -/
def averageLatency (flow : Flow) : Nat := flow.latencySum / flow.latencySamples

/-- Was the flow without a packet for longer than a timeout. -/
def isIdle (flow : Flow) (now timeout : Nat) : Bool := timeout < now - flow.lastSeen

/-- Adds the traffic that was counted for the same flow elsewhere. -/
def merge (flow other : Flow) : Flow :=
  { flow with
    packets := flow.packets + other.packets
    bytes := flow.bytes + other.bytes
    latencySum := flow.latencySum + other.latencySum
    latencySamples := flow.latencySamples + other.latencySamples
    lastSeen := max flow.lastSeen other.lastSeen }

end Flow

end FlowSteer
