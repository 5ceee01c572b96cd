import FlowSteer.Proofs.Atomicity
import FlowSteer.Proofs.Failover.Placement

/-!
# Rates and places of flows

A request gives a flow its rate and may name the queue on which the flow is to live. The rate is
kept also when the flow cannot be placed.

1. `System.get?_limits_run`: the limit of a flow is what the latest operation made of it that is
   about this limit.
2. `RateLimits.honours`: where tables and directory agree, a request does what it asks for as far as
   it can, and touches no other flow.
3. `System.ratesAndPlaces_run`: both, after every run.
-/

namespace FlowSteer

/-! ## What operations are about -/

/-- The limit that a request gives to a flow, if it is for this flow. -/
def RateRequest.limitFor? (request : RateRequest) (flow : FlowId) : Option (Option Nat) :=
  if flow = request.flow then some (some request.rate) else none

/-- What an operation makes of the limit of a flow, if it is about this limit: a request sets it,
whatever becomes of the queue that it names, and clearing takes it away. -/
def Operation.limitFor? (flow : FlowId) : Operation → Option (Option Nat)
  | applyRate request => request.limitFor? flow
  | applyLine line => (RateRequest.parse line).toOption.bind (·.limitFor? flow)
  | clearRate other => if flow = other then some none else none
  | _ => none

/-- The latest item of which something was made, found from behind. -/
theorem findSome?_reverse_eq_some_iff {α β : Type} {items : List α} {made? : α → Option β}
    {made : β} :
    items.reverse.findSome? made? = some made ↔
      ∃ earlier item later, items = earlier ++ item :: later ∧ made? item = some made ∧
        ∀ other ∈ later, made? other = none := by
  rw [List.findSome?_eq_some_iff]
  constructor
  · rintro ⟨later, item, earlier, reversed, isMade, silent⟩
    refine ⟨earlier.reverse, item, later.reverse, ?_, isMade, ?_⟩
    · rw [← List.reverse_reverse items, reversed, List.reverse_append, List.reverse_cons,
        List.append_assoc, List.singleton_append]
    · exact fun other member => silent other (List.mem_reverse.1 member)
  · rintro ⟨earlier, item, later, rfl, isMade, silent⟩
    refine ⟨later.reverse, item, earlier.reverse, ?_, isMade, ?_⟩
    · rw [List.reverse_append, List.reverse_cons, List.append_assoc, List.singleton_append]
    · exact fun other member => silent other (List.mem_reverse.1 member)

/-! ## Requests -/

namespace RateLimits

/-- What a request does in a state. -/
structure Honours (limits : RateLimits) (failover : Failover) (request : RateRequest) :
    Prop where
  /-- The rate is kept, whatever becomes of the place. -/
  rate : ∀ flow, (limits.apply failover request).2.1.get? flow =
    if flow = request.flow then some request.rate else limits.get? flow
  /-- Without a queue the request is about the rate alone. -/
  unplaced : request.queue = none → (limits.apply failover request).1 =
      .ok { flow := request.flow, rate := request.rate, movedFrom := none } ∧
    (limits.apply failover request).2.2 = failover
  /-- A queue is accepted when it is registered, the flow is known, and the flow lives there already
  or the queue is in service. -/
  accepted_iff : ∀ {target}, request.queue = some target →
    ((∃ outcome, (limits.apply failover request).1 = .ok outcome) ↔
      ∃ queue owner, failover.registry.queues.get? target = some queue ∧
        failover.registry.ownerOf request.flow = some owner ∧
        (owner = target ∨ queue.status ≠ .failed))
  /-- The flow then lives on this queue, as it was, and the answer names the queue that it left. -/
  placed : ∀ {target outcome}, request.queue = some target →
    (limits.apply failover request).1 = .ok outcome →
    ∃ source, outcome = {
        flow := request.flow, rate := request.rate
        movedFrom := if source = target then none else some source } ∧
      failover.registry.Rehomes (limits.apply failover request).2.2.registry request.flow source
        target
  /-- A request that is refused changes nothing but the rate. -/
  refused : ∀ {error}, (limits.apply failover request).1 = .error error →
    (limits.apply failover request).2.2 = failover
  /-- Accepted or not, a request touches no other flow, and no queue beside its flows. -/
  sparesOthers : failover.registry.SparesOthers (limits.apply failover request).2.2.registry
    request.flow
  /-- What failover remembers it remembers still. -/
  rest : (limits.apply failover request).2.2 =
    { failover with registry := (limits.apply failover request).2.2.registry }

variable {limits : RateLimits} {failover : Failover} {request : RateRequest}

theorem apply_of_unplaced (unplaced : request.queue = none) :
    limits.apply failover request =
      (.ok { flow := request.flow, rate := request.rate, movedFrom := none },
        limits.insert request.flow request.rate, failover) := by
  unfold apply
  rw [unplaced]

/-- The answer to a request that names a queue is the answer to placing its flow. -/
theorem apply_of_placed {target : QueueId} (named : request.queue = some target) :
    limits.apply failover request =
      ((failover.placeFlow request.flow target).1.map fun movedFrom =>
          { flow := request.flow, rate := request.rate, movedFrom },
        limits.insert request.flow request.rate, (failover.placeFlow request.flow target).2) := by
  unfold apply
  rw [named]
  simp only []
  cases failover.placeFlow request.flow target with
  | mk outcome after => cases outcome <;> rfl

theorem limits_apply (limits : RateLimits) (failover : Failover) (request : RateRequest) :
    (limits.apply failover request).2.1 = limits.insert request.flow request.rate := by
  cases named : request.queue with
  | none => rw [apply_of_unplaced named]
  | some target => rw [apply_of_placed named]

/-- Where tables and directory agree, requests are honoured. -/
theorem honours (own : failover.registry.Ownership) (limits : RateLimits)
    (request : RateRequest) : limits.Honours failover request where
  rate := by
    intro flow
    rw [limits_apply, IdMap.get?_insert]
  unplaced := by
    intro unplaced
    rw [apply_of_unplaced unplaced]
    exact ⟨rfl, rfl⟩
  accepted_iff := by
    intro target named
    rw [← Failover.placeFlow_ok_iff own, apply_of_placed named]
    cases (failover.placeFlow request.flow target).1 with
    | error error => exact iff_of_false nofun nofun
    | ok movedFrom => exact iff_of_true ⟨_, rfl⟩ ⟨_, rfl⟩
  placed := by
    intro target outcome named accepted
    rw [apply_of_placed named] at accepted ⊢
    cases placed : (failover.placeFlow request.flow target).1 with
    | error error =>
        rw [placed] at accepted
        cases accepted
    | ok movedFrom =>
        rw [placed] at accepted
        cases accepted
        obtain ⟨source, rfl, rehomes⟩ := Failover.rehomes_placeFlow own placed
        exact ⟨source, rfl, rehomes⟩
  refused := by
    intro error refused
    cases named : request.queue with
    | none =>
        rw [apply_of_unplaced named] at refused
        cases refused
    | some target =>
        rw [apply_of_placed named] at refused ⊢
        cases placed : (failover.placeFlow request.flow target).1 with
        | error other => exact failover.atomic_placeFlow request.flow target other placed
        | ok movedFrom =>
            rw [placed] at refused
            cases refused
  sparesOthers := by
    cases named : request.queue with
    | none =>
        rw [apply_of_unplaced named]
        exact .refl _ _
    | some target =>
        rw [apply_of_placed named]
        exact Failover.sparesOthers_placeFlow own request.flow target
  rest := by
    rcases limits.apply_cases failover request with same | ⟨flow, target, same⟩
    · rw [same]
    · rw [same]
      rcases failover.placeFlow_cases flow target with ⟨_, result⟩ | result | ⟨_, _, result⟩ <;>
        rw [result]

end RateLimits

/-! ## Runs -/

namespace System

/-- The limit of a flow after an operation. -/
theorem get?_limits_step (system : System) (operation : Operation) (flow : FlowId) :
    (system.step operation).limits.get? flow =
      (operation.limitFor? flow).getD (system.limits.get? flow) := by
  have applied : ∀ request, (system.limits.apply system.failover request).2.1.get? flow =
      (request.limitFor? flow).getD (system.limits.get? flow) := by
    intro request
    rw [RateLimits.limits_apply, IdMap.get?_insert]
    unfold RateRequest.limitFor?
    split <;> rfl
  cases operation with
  | applyRate request => exact applied request
  | applyLine line =>
      show (system.limits.applyLine system.failover line).2.1.get? flow =
        ((RateRequest.parse line).toOption.bind (·.limitFor? flow)).getD _
      unfold RateLimits.applyLine
      cases RateRequest.parse line with
      | error error => rfl
      | ok request => exact applied request
  | clearRate other =>
      show (system.limits.erase other).get? flow =
        (if flow = other then some none else none).getD _
      rw [IdMap.get?_erase]
      split <;> rfl
  | _ => rfl

/-- The limit of a flow after a run. -/
theorem get?_limits_run (system : System) (operations : List Operation) (flow : FlowId) :
    (system.run operations).limits.get? flow =
      (operations.reverse.findSome? (·.limitFor? flow)).getD (system.limits.get? flow) := by
  induction operations generalizing system with
  | nil => rfl
  | cons operation rest ih =>
      rw [run_cons, ih, get?_limits_step, List.reverse_cons, List.findSome?_append,
        Option.getD_or, List.findSome?_singleton]

/-- Rates and places of flows after a run. -/
structure RatesAndPlaces (start : System) (operations : List Operation) : Prop where
  ascending : (start.run operations).limits.ids.Pairwise (· < ·)
  /-- A limit is the rate of a request after which no operation was about this limit. -/
  listed : ∀ {flow rate}, (flow, rate) ∈ (start.run operations).limits.toList ↔
    ∃ earlier operation later, operations = earlier ++ operation :: later ∧
      operation.limitFor? flow = some (some rate) ∧
      ∀ other ∈ later, other.limitFor? flow = none
  /-- Looking through the tables finds the queue that the directory names. -/
  located : ∀ flow, (start.run operations).registry.holderOf flow =
    (start.run operations).registry.ownerOf flow
  honours : ∀ request,
    (start.run operations).limits.Honours (start.run operations).failover request
  /-- Clearing a limit touches no other limit, and no flow. -/
  clears : ∀ flow, ((start.run operations).step (.clearRate flow)).failover =
      (start.run operations).failover ∧
    ∀ other, ((start.run operations).step (.clearRate flow)).limits.get? other =
      if other = flow then none else (start.run operations).limits.get? other

/-- After every run limits are as requested, and requests are honoured. -/
theorem ratesAndPlaces_run (blueprint : Blueprint) (operations : List Operation) :
    (fresh blueprint).RatesAndPlaces operations := by
  have own := ownership_run blueprint operations
  constructor
  case ascending => exact IdMap.ids_ascending _
  case listed =>
    intro flow rate
    have fresh : (fresh blueprint).limits.get? flow = none := rfl
    rw [← IdMap.get?_eq_some_iff, get?_limits_run, fresh, ← findSome?_reverse_eq_some_iff]
    cases operations.reverse.findSome? (·.limitFor? flow) with
    | none => exact iff_of_false nofun nofun
    | some limit => exact (Option.some_inj).symm
  case located => exact own.holderOf_eq
  case honours => exact RateLimits.honours own _
  case clears =>
    intro flow
    exact ⟨rfl, fun other => IdMap.get?_erase _ flow other⟩

/-- The third request is refused, as its queue is out of service, and the rate is kept all the same.
The last one asks for the queue on which the flow lives. -/
example :
    let start := fresh { capacity := 4, maxFlows := 8, buffersPerNode := 4, ringCapacity := 3 }
    let system := start.run [.registry (.register 0 0), .registry (.register 1 0),
      .registry (.record 0 7 60 .tx), .applyRate { flow := 9, rate := 5 },
      .applyRate { flow := 7, rate := 10, queue := some 1 }, .registry (.setStatus 0 .failed),
      .applyRate { flow := 7, rate := 20, queue := some 0 }, .clearRate 9]
    let request : RateRequest := { flow := 7, rate := 30, queue := some 1 }
    system.limits.toList = [(7, 20)] ∧ system.registry.ownerOf 7 = some 1 ∧
      (system.limits.apply system.failover request).1 =
        .ok { flow := 7, rate := 30, movedFrom := none } := by
  decide

end System

end FlowSteer
