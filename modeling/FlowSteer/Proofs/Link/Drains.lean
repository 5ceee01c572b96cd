import FlowSteer.Proofs.Buffers.Rings
import FlowSteer.Proofs.Registry.Effects

/-!
# A drain step by step

A drain collects completions, clears the way (events are taken, buffers go back, work is taken
off), and then accounts for the completions one after another. `drain_eq` says that this is all it
does, so that a drain can be followed from one completion to the next (`accounted_append`).
`drain_fst` says what it reports, whatever the accounting comes to.
-/

namespace FlowSteer

namespace Completion

/-- Is this a received packet. -/
def isReceived (completion : Completion) : Bool :=
  completion.status == .ok && completion.descriptor.direction == .rx

/-- Is this a packet that was sent. -/
def isSent (completion : Completion) : Bool :=
  completion.status == .ok && completion.descriptor.direction == .tx

end Completion

/-- The report on some events and some completions. -/
def DrainReport.of (events : Nat) (completions : List Completion) : DrainReport where
  events
  completed := completions.length
  rxPackets := completions.countP Completion.isReceived
  txCompletions := completions.countP Completion.isSent
  errors := completions.countP (·.status == .error)
  dropped := completions.countP (·.status == .dropped)

namespace Link

/-- Accounts for one completion, without the report. -/
def finish (id : QueueId) (now : Nat) (link : Link) (completion : Completion) : Link :=
  (finishOne id now ({}, link) completion).2

/-- One more received packet of some length. -/
def countReceived (link : Link) (bytes : Nat) : Link :=
  link.count fun stats =>
    { stats with rxPackets := stats.rxPackets + 1, rxBytes := stats.rxBytes + bytes }

/-- The completions that a drain collects. -/
def collected (link : Link) (id : QueueId) (budget : Option Nat) : List Completion :=
  let completed := (link.datapath.device.ring id).completed
  completed.take (budget.getD completed.length)

/-- The link when a drain begins to account for its completions. -/
def cleared (link : Link) (id : QueueId) (budget : Option Nat) : Link :=
  let heard := (link.datapath.takeEvents id).2
  let size := budget.getD (link.datapath.device.ring id).completed.length
  let polled := { heard with device := (heard.device.poll id size).2 }
  let mappings := (link.collected id budget).map Completion.mapping
  let returned := { link with datapath := mappings.foldl Datapath.giveBack polled }
  returned.settle id (link.collected id budget).length

/-- The link when a drain has accounted for some completions. -/
def accounted (link : Link) (id : QueueId) (budget : Option Nat) (now : Nat)
    (completions : List Completion) : Link :=
  completions.foldl (finish id now) (link.cleared id budget)

variable {link : Link} {id : QueueId} {queue : Queue}

/-! ## The accounting -/

theorem finishOne_snd (id : QueueId) (now : Nat) (state : DrainReport × Link)
    (completion : Completion) :
    (finishOne id now state completion).2 = finish id now state.2 completion := by
  unfold finish finishOne
  cases completion.status with
  | ok => cases completion.descriptor.direction <;> rfl
  | error => rfl
  | dropped => rfl

theorem foldl_finishOne_snd (id : QueueId) (now : Nat) (completions : List Completion)
    (state : DrainReport × Link) :
    (completions.foldl (finishOne id now) state).2 =
      completions.foldl (finish id now) state.2 := by
  induction completions generalizing state with
  | nil => rfl
  | cons completion rest ih => rw [List.foldl_cons, List.foldl_cons, ih, finishOne_snd]

theorem accounted_append (link : Link) (id : QueueId) (budget : Option Nat) (now : Nat)
    (earlier : List Completion) (completion : Completion) :
    link.accounted id budget now (earlier ++ [completion]) =
      finish id now (link.accounted id budget now earlier) completion := by
  unfold accounted
  rw [List.foldl_append]
  rfl

/-- A received packet of a flow is accounted for as such. -/
theorem finish_of_received {completion : Completion} {flow : FlowId}
    (transferred : completion.status = .ok) (received : completion.descriptor.direction = .rx)
    (named : (completion.flow <|> completion.descriptor.flow) = some flow) (id : QueueId)
    (now : Nat) (link : Link) :
    finish id now link completion =
      (link.countReceived completion.len).account id flow completion.len .rx now := by
  unfold finish finishOne
  simp only [transferred, received, named]
  rfl

/-! ## The report -/

/-- Completions are reported one by one, by what became of them. -/
theorem foldl_finishOne_fst (id : QueueId) (now : Nat) (completions : List Completion)
    (state : DrainReport × Link) :
    (completions.foldl (finishOne id now) state).1 =
      { state.1 with
        rxPackets := state.1.rxPackets + completions.countP Completion.isReceived
        txCompletions := state.1.txCompletions + completions.countP Completion.isSent
        errors := state.1.errors + completions.countP (·.status == .error)
        dropped := state.1.dropped + completions.countP (·.status == .dropped) } := by
  induction completions generalizing state with
  | nil => rfl
  | cons completion rest ih =>
      rw [List.foldl_cons, ih]
      unfold finishOne
      cases status : completion.status with
      | ok =>
          cases direction : completion.descriptor.direction <;>
            simp [Completion.isReceived, Completion.isSent, status, direction, Nat.add_assoc,
              Nat.add_comm 1]
      | error =>
          simp [Completion.isReceived, Completion.isSent, status, Nat.add_assoc, Nat.add_comm 1]
      | dropped =>
          simp [Completion.isReceived, Completion.isSent, status, Nat.add_assoc, Nat.add_comm 1]

theorem collect_fst (link : Link) (id : QueueId) (events : Nat) (completions : List Completion)
    (now : Nat) : (link.collect id events completions now).1 = .of events completions := by
  unfold collect
  cases completions with
  | nil => rfl
  | cons completion rest =>
      refine (foldl_finishOne_fst id now (completion :: rest) _).trans ?_
      simp only [Nat.zero_add]
      rfl

/-! ## The drain -/

theorem ring_takeEvents (datapath : Datapath) (id other : QueueId) :
    (datapath.takeEvents id).2.device.ring other = datapath.device.ring other := by
  unfold Datapath.takeEvents
  cases datapath.channel? id <;> rfl

theorem settle_zero (found : link.registry.queues.get? id = some queue) :
    link.settle id 0 = link := by
  unfold settle
  rw [Registry.finishWork_of_le found (Nat.zero_le _)]
  have same : link.registry.putQueue id { queue with pending := queue.pending - 0 } =
      link.registry := Registry.putQueue_self found
  rw [same]

theorem collect_snd (found : link.registry.queues.get? id = some queue) (events : Nat)
    (completions : List Completion) (now : Nat) :
    (link.collect id events completions now).2 = completions.foldl (finish id now)
      (({ link with
        datapath := (completions.map Completion.mapping).foldl Datapath.giveBack link.datapath } :
          Link).settle id completions.length) := by
  unfold collect
  cases completions with
  | nil => exact (settle_zero found).symm
  | cons completion rest => exact foldl_finishOne_snd id now (completion :: rest) (_, _)

/-- Taking events first makes no difference to the completions that the device hands out. -/
theorem poll_takeEvents (link : Link) (id : QueueId) (size : Nat) :
    ((link.datapath.takeEvents id).2.device.poll id size).1 =
      (link.datapath.device.ring id).completed.take size := by
  rw [((link.datapath.takeEvents id).2.device.poll_eq id size).1, ring_takeEvents]
  rfl

/-- A queue that is not there is not drained. -/
theorem drain_of_absent (absent : link.registry.queues.get? id = none) (budget : Option Nat)
    (now : Nat) : link.drain id budget now = (.error (.noSuchQueue id), link) := by
  unfold drain
  rw [Registry.queue_of_absent absent]

/-- A drain reports the events that waited and the completions that it collects. -/
theorem drain_fst (found : link.registry.queues.get? id = some queue) (budget : Option Nat)
    (now : Nat) : (link.drain id budget now).1 =
      .ok (.of (link.datapath.takeEvents id).1 (link.collected id budget)) := by
  unfold drain
  rw [Registry.queue_of_get? found]
  simp only [collect_fst, poll_takeEvents, ring_takeEvents]
  rfl

/-- A drain accounts for the completions that it collects. -/
theorem drain_eq (found : link.registry.queues.get? id = some queue) (budget : Option Nat)
    (now : Nat) : ∃ report, link.drain id budget now =
      (.ok report, link.accounted id budget now (link.collected id budget)) := by
  unfold drain
  rw [Registry.queue_of_get? found]
  have collected : ∀ datapath events completions,
      (({ link with datapath } : Link).collect id events completions now).2 =
        completions.foldl (finish id now) (({ link with
          datapath := (completions.map Completion.mapping).foldl Datapath.giveBack datapath } :
            Link).settle id completions.length) := by
    intro datapath events completions
    have present : ({ link with datapath } : Link).registry.queues.get? id = some queue := found
    exact collect_snd present events completions now
  refine ⟨_, Prod.ext rfl ((collected _ _ _).trans ?_)⟩
  simp only [ring_takeEvents, poll_takeEvents]
  rfl

end Link

end FlowSteer
