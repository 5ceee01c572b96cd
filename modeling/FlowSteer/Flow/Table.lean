import FlowSteer.Flow.Basic
import FlowSteer.IdMap

/-!
# Flow tables

The flows that one queue owns, with a limit on new flows. A flow that moves in from another
table is taken in whatever the limit.
-/

namespace FlowSteer

/-- Why a flow table refused a flow. -/
inductive TableError where
  | full
  | duplicate
deriving DecidableEq, Inhabited

/-- Text of the error. -/
def TableError.message : TableError → String
  | full => "flow table full"
  | duplicate => "flow already present"

/-- The flows of one queue. -/
structure FlowTable where
  /-- Number of flows from which on no new one is taken in. -/
  capacity : Nat
  flows : IdMap Flow := .empty
deriving DecidableEq, Inhabited

namespace FlowTable

/-- Number of flows. -/
def size (table : FlowTable) : Nat := table.flows.size

/-- What the table keeps of a flow. -/
def get? (table : FlowTable) (flow : FlowId) : Option Flow := table.flows.get? flow

/-- Does the table hold the flow. -/
def contains (table : FlowTable) (flow : FlowId) : Bool := table.flows.contains flow

/-- Flows in ascending order of their ids. -/
def entries (table : FlowTable) : List Flow := table.flows.values

/-- Puts a flow in place. -/
def put (table : FlowTable) (flow : Flow) : FlowTable :=
  { table with flows := table.flows.insert flow.id flow }

/-- Changes a flow, if the table holds it. -/
def modify (table : FlowTable) (flow : FlowId) (change : Flow → Flow) : FlowTable :=
  { table with flows := table.flows.modify flow change }

/-- Takes in a new flow, within the limit. -/
def addNew (table : FlowTable) (flow : FlowId) (now : Nat) : Except TableError FlowTable :=
  if table.contains flow then .error .duplicate
  else if table.capacity ≤ table.size then .error .full
  else .ok (table.put (.fresh flow now))

/-- Takes in a flow from another table, whatever the limit. -/
def moveIn (table : FlowTable) (flow : Flow) : Except TableError FlowTable :=
  if table.contains flow.id then .error .duplicate else .ok (table.put flow)

/-- Takes in a flow from another table, adding to it what is already there. -/
def absorb (table : FlowTable) (flow : Flow) : FlowTable :=
  match table.moveIn flow with
  | .ok table => table
  | .error _ => table.modify flow.id (·.merge flow)

/-- Forgets a flow. -/
def erase (table : FlowTable) (flow : FlowId) : FlowTable :=
  { table with flows := table.flows.erase flow }

/-- Forgets every flow. -/
def clear (table : FlowTable) : FlowTable := { table with flows := .empty }

/-- Flows that were without a packet for longer than a timeout, ascending. -/
def idle (table : FlowTable) (now timeout : Nat) : List FlowId :=
  (table.entries.filter (·.isIdle now timeout)).map (·.id)

/-- Forgets the flows that were without a packet for longer than a timeout. -/
def forgetIdle (table : FlowTable) (now timeout : Nat) : FlowTable :=
  { table with flows := table.flows.filter fun _ flow => !flow.isIdle now timeout }

end FlowTable

end FlowSteer
