import FlowSteer.Failover.Remap
import FlowSteer.Json.Fields
import FlowSteer.Json.Reader
import FlowSteer.Text.Blank

/-!
# Rates of flows

An agent sends requests, one JSON line each, for the rate of a flow and, if it likes, for the
queue on which the flow is to live. The rate is kept also when the flow cannot be placed.
-/

namespace FlowSteer

/-- A request of the agent. -/
structure RateRequest where
  flow : FlowId
  /-- Rate in kilobits per second. -/
  rate : Nat
  /-- Queue on which the flow is to live. -/
  queue : Option QueueId := none
deriving DecidableEq, Inhabited

/-- Rates by flow. -/
abbrev RateLimits := IdMap Nat

/-- What became of a request. -/
structure RateOutcome where
  flow : FlowId
  rate : Nat
  /-- Queue from which the flow was moved. -/
  movedFrom : Option QueueId
deriving DecidableEq, Inhabited

namespace RateRequest

/-- Reads a request. The rate goes by either of two names. -/
def ofJson? (value : Json) : Option RateRequest := do
  let fields ← value.fields? 3
  return {
    flow := ← fields.required 0 ["flow_id"] (Json.nat? wordSize32)
    rate := ← fields.required 1 ["rate_kbit", "rate"] (Json.nat? wordSize)
    queue := ← fields.withDefault 2 ["queue"] (Json.optional? (Json.nat? wordSize32)) none }

/-- Reads one line, blanks at its ends aside. -/
def parse (line : List Char) : Except ControlError RateRequest :=
  match (Json.parse? (Text.trim line)).bind ofJson? with
  | some request => .ok request
  | none => .error (.malformed "not a rate request")

end RateRequest

namespace RateLimits

/-- Keeps the rate of a request and, if it names a queue, moves the flow there. -/
def apply (limits : RateLimits) (failover : Failover) (request : RateRequest) :
    Except ControlError RateOutcome × RateLimits × Failover :=
  let kept := limits.insert request.flow request.rate
  match request.queue with
  | none => (.ok { flow := request.flow, rate := request.rate, movedFrom := none }, kept, failover)
  | some queue =>
      match failover.placeFlow request.flow queue with
      | (.error error, left) => (.error error, kept, left)
      | (.ok movedFrom, moved) =>
          (.ok { flow := request.flow, rate := request.rate, movedFrom }, kept, moved)

/-- Reads and applies one line. -/
def applyLine (limits : RateLimits) (failover : Failover) (line : List Char) :
    Except ControlError RateOutcome × RateLimits × Failover :=
  match RateRequest.parse line with
  | .error error => (.error error, limits, failover)
  | .ok request => limits.apply failover request

end RateLimits

end FlowSteer
