import FlowSteer.Proofs.Link.Endings

/-!
# Posting receive buffers reports the truth

`Link.Reports` says what posting receive buffers on a queue should come to, from three things alone:
the number asked for, how many buffers can be taken and mapped (`Datapath.obtainable`), and the room
in the ring. After every run the outcome is as it says exactly when at least one buffer is asked for
and a table of that many descriptors can be allocated (`System.reports_run_iff`). To ask for none is
refused for want of buffers, also where buffers are free (`System.none_posted_beside_free`).
-/

namespace FlowSteer

namespace Link

/-- What must be the case where receive buffers are refused for some reason. No other reason is
good. -/
def Grounds (link : Link) (id : QueueId) (queue : Queue) (number : Nat) : ControlError → Prop
  | .ringFull full => full = id ∧ link.datapath.device.ringCapacity <
      link.datapath.device.inFlight id + link.datapath.obtainable queue.node number
  | .noBuffer node => node = queue.node ∧
      ∀ pool, link.datapath.pools.pool? node = some pool → pool.available = 0
  | .mapRefused _ => 0 < link.datapath.device.faults ∧
      ∃ pool, link.datapath.pools.pool? queue.node = some pool ∧ 0 < pool.available
  | _ => False

/-- The outcome of posting some number of receive buffers on a queue tells what happened. Pending
work is counted modulo 2⁶⁴. -/
structure Reports (link : Link) (id : QueueId) (queue : Queue) (number : Nat) : Prop where
  /-- There is an outcome. -/
  answered : (link.postReceive? id number).isSome
  /-- With room for the buffers that there are, these are posted in the order of the pool, and
  nothing else changes. -/
  posted : 0 < link.datapath.obtainable queue.node number →
    link.datapath.device.inFlight id + link.datapath.obtainable queue.node number ≤
      link.datapath.device.ringCapacity →
    ∃ pool, link.datapath.pools.pool? queue.node = some pool ∧
      link.postReceive? id number = some (.ok (link.datapath.obtainable queue.node number),
        link.stocked id queue pool (link.datapath.obtainable queue.node number)) ∧
      (link.datapath.receiveDescriptors pool
        (link.datapath.obtainable queue.node number)).length =
          link.datapath.obtainable queue.node number
  /-- None are posted, and nothing changes, where none are asked for. -/
  nothing : number = 0 → link.datapath.device.inFlight id ≤ link.datapath.device.ringCapacity →
    link.postReceive? id number = some (.ok 0, link)
  refused : ∀ {error after}, link.postReceive? id number = some (.error error, after) →
    link.Grounds id queue number error

variable {link : Link} {id : QueueId} {queue : Queue} {number : Nat}

/-- On a queue that is there, everything hangs on the table of descriptors. -/
theorem postReceive?_of_get? (found : link.registry.queues.get? id = some queue) (number : Nat) :
    link.postReceive? id number =
      if allocates number descriptorBytes then some (link.postReceive id number) else none := by
  unfold postReceive?
  rw [Registry.queue_of_get? found]

/-- A refusal is right if there are grounds for it and posting was not possible. -/
theorem reports_of_refused {error : ControlError} {after : Link}
    (result : link.postReceive? id number = some (.error error, after))
    (grounds : link.Grounds id queue number error) (positive : 0 < number)
    (impossible : 0 < link.datapath.obtainable queue.node number →
      link.datapath.device.ringCapacity <
        link.datapath.device.inFlight id + link.datapath.obtainable queue.node number) :
    link.Reports id queue number where
  answered := Option.isSome_of_eq_some result
  posted := fun obtained room => absurd (impossible obtained) (Nat.not_lt.2 room)
  nothing := fun zero => absurd zero (Nat.ne_of_gt positive)
  refused := by
    intro shown left refused
    rw [result] at refused
    cases refused
    exact grounds

theorem reports_of_pos (tidy : link.datapath.pools.Tidy)
    (found : link.registry.queues.get? id = some queue) (positive : 0 < number)
    (allocated : allocates number descriptorBytes = true) : link.Reports id queue number := by
  have answer := postReceive?_of_get? found number
  rw [if_pos allocated] at answer
  rcases postReceive_endings tidy found number with
    ⟨zero, _⟩ | ⟨_, none, result⟩ | ⟨pool, _, present, stocked, ends⟩
  · exact absurd zero (Nat.ne_of_gt positive)
  · have noneObtained : link.datapath.obtainable queue.node number = 0 := by
      unfold Datapath.obtainable
      rw [none, Nat.min_zero, ite_self]
    rw [result] at answer
    refine reports_of_refused answer ⟨rfl, fun pool present => ?_⟩ positive ?_
    · rw [present] at none
      exact none
    · exact fun obtained => absurd noneObtained (Nat.ne_of_gt obtained)
  · rcases ends with ⟨faulty, reason, result⟩ | ⟨working, ends⟩
    · have noneObtained : link.datapath.obtainable queue.node number = 0 := if_pos faulty
      rw [result] at answer
      refine reports_of_refused answer ⟨faulty, pool, present, stocked⟩ positive ?_
      exact fun obtained => absurd noneObtained (Nat.ne_of_gt obtained)
    · rw [← Datapath.obtainable_of_working present working number] at ends
      rcases ends with ⟨full, result⟩ | ⟨room, result⟩
      · rw [result] at answer
        exact reports_of_refused answer ⟨rfl, full⟩ positive fun _ => full
      · rw [result] at answer
        constructor
        · exact Option.isSome_of_eq_some answer
        · intro _ _
          refine ⟨pool, present, answer, ?_⟩
          rw [Datapath.length_receiveDescriptors, Datapath.obtainable_of_working present working,
            Nat.min_assoc, Nat.min_self]
        · exact fun zero => absurd zero (Nat.ne_of_gt positive)
        · intro error after refused
          rw [answer] at refused
          cases refused

/-- The truth is told exactly when there is something to post, in a table that can be allocated. -/
theorem reports_iff (tidy : link.datapath.pools.Tidy) (bounded : link.datapath.device.Bounded)
    (found : link.registry.queues.get? id = some queue) :
    link.Reports id queue number ↔ 0 < number ∧ allocates number descriptorBytes = true := by
  have answer := postReceive?_of_get? found number
  constructor
  · intro reports
    cases allocated : allocates number descriptorBytes with
    | false =>
        have answered := reports.answered
        rw [answer, allocated] at answered
        cases answered
    | true =>
        refine ⟨?_, rfl⟩
        rcases Nat.eq_zero_or_pos number with rfl | positive
        · have nothing := reports.nothing rfl (bounded id)
          rw [answer, if_pos allocated, postReceive_zero found] at nothing
          cases nothing
        · exact positive
  · rintro ⟨positive, allocated⟩
    exact reports_of_pos tidy found positive allocated

end Link

namespace System

/-- After every run, posting receive buffers on a registered queue reports the truth exactly when at
least one buffer is asked for and a table of that many descriptors can be allocated. -/
theorem reports_run_iff (blueprint : Blueprint) (operations : List Operation) {id : QueueId}
    {queue : Queue}
    (found : ((fresh blueprint).run operations).link.registry.queues.get? id = some queue)
    (number : Nat) :
    ((fresh blueprint).run operations).link.Reports id queue number ↔
      0 < number ∧ allocates number Link.descriptorBytes = true :=
  Link.reports_iff (tidy_run blueprint operations) (bounded_run blueprint operations) found

/-- Of three buffers asked for, two are there and are posted. -/
theorem reports_run_iff_of_two_free :
    let blueprint : Blueprint := {
      capacity := 4, maxFlows := 8, buffersPerNode := 3, ringCapacity := 4 }
    let link := ((fresh blueprint).run
      [.registry (.register 0 0), .link (.send { flow := 5, len := 60 } 7)]).link
    ∃ queue, link.registry.queues.get? 0 = some queue ∧
      (link.Reports 0 queue 3 ↔ 0 < 3 ∧ allocates 3 Link.descriptorBytes = true) ∧
      (link.postReceive? 0 3).map Prod.fst = some (.ok 2) ∧
      link.datapath.obtainable 0 3 = 2 := by
  refine ⟨_, rfl, reports_run_iff _ _ rfl 3, ?_, ?_⟩ <;> decide

/-- To post none is refused for want of buffers, though one is free and there is room. -/
theorem none_posted_beside_free :
    let link := ((fresh {
      capacity := 4, maxFlows := 8, buffersPerNode := 1, ringCapacity := 4 }).run
        [.registry (.register 0 0)]).link
    (link.postReceive? 0 0).map Prod.fst = some (.error (.noBuffer 0)) ∧
      (link.datapath.pools.pool? 0).map Pool.available = some 1 ∧
      link.datapath.obtainable 0 0 = 0 ∧ link.datapath.device.inFlight 0 = 0 := by
  decide

end System

end FlowSteer
