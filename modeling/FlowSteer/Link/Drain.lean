import FlowSteer.Link.Transfer

/-!
# Draining completions

A drain takes the waiting events of a queue, collects completions within a budget, gives their
buffers back and accounts for each of them. A completion worker drains a queue when an event
arrives, again as long as a drain used up its budget, and once more without a budget when it
stops.
-/

namespace FlowSteer

namespace Link

/-- Accounts for one completion. -/
def finishOne (queue : QueueId) (now : Nat) (state : DrainReport × Link)
    (completion : Completion) : DrainReport × Link :=
  let (report, link) := state
  let direction := completion.descriptor.direction
  match completion.status, direction with
  | .ok, .rx =>
      let counted := link.count fun stats =>
        { stats with
          rxPackets := stats.rxPackets + 1
          rxBytes := stats.rxBytes + completion.len }
      ({ report with rxPackets := report.rxPackets + 1 },
        match completion.flow <|> completion.descriptor.flow with
        | some flow => counted.account queue flow completion.len .rx now
        | none => counted.count fun stats => { stats with untracked := stats.untracked + 1 })
  | .ok, .tx =>
      ({ report with txCompletions := report.txCompletions + 1 },
        link.count fun stats => { stats with txCompletions := stats.txCompletions + 1 })
  | .error, _ =>
      ({ report with errors := report.errors + 1 },
        { link with registry := (link.registry.countError queue direction).2 }.count fun stats =>
          { stats with errors := stats.errors + 1 })
  | .dropped, _ =>
      ({ report with dropped := report.dropped + 1 }, link.dropPacket queue direction)

/-- Takes completed work off a queue; work that was not pending is an underflow. -/
def settle (link : Link) (queue : QueueId) (completed : Nat) : Link :=
  match link.registry.finishWork queue completed with
  | (.ok _, registry) => { link with registry }
  | (.error _, registry) =>
      { link with registry }.count fun stats => { stats with underflows := stats.underflows + 1 }

/-- Accounts for completions that were collected from a queue. -/
def collect (link : Link) (queue : QueueId) (events : Nat) (completions : List Completion)
    (now : Nat) : DrainReport × Link :=
  if completions.isEmpty then ({ events }, link)
  else
    let returned := { link with
      datapath :=
        (completions.map Completion.mapping).foldl Datapath.giveBack link.datapath }
    completions.foldl (finishOne queue now)
      ({ events, completed := completions.length }, returned.settle queue completions.length)

/-- Drains a queue: all its waiting events, and completions within the budget; without a budget
all of them. -/
def drain (link : Link) (queue : QueueId) (budget : Option Nat) (now : Nat) :
    Except ControlError DrainReport × Link :=
  match link.registry.queue queue with
  | .error error => (.error error, link)
  | .ok _ =>
      let (events, heard) := link.datapath.takeEvents queue
      let (completions, device) :=
        heard.device.poll queue (budget.getD (heard.device.ring queue).completed.length)
      let (report, drained) :=
        { link with datapath := { heard with device } }.collect queue events completions now
      (.ok report, drained)

/-- Drains a queue again and again as long as a drain used up its budget, at most `limit`
times. -/
def drainBatches (queue : QueueId) (budget now : Nat) : (limit : Nat) → Link → Link
  | 0, link => link
  | limit + 1, link =>
      match link.drain queue (some budget) now with
      | (.error _, link) => link
      | (.ok report, link) =>
          if report.completed = budget then drainBatches queue budget now limit link else link

/-- One run of the completion worker of a queue: the batches of one wake-up if an event waits,
then a last drain without a budget. -/
def work (link : Link) (queue : QueueId) (budget now : Nat) : Link :=
  let woken :=
    match link.datapath.takeEvent queue with
    | (false, _) => link
    -- Each batch but the last uses up the budget, so one more than the completions is enough.
    | (true, datapath) =>
        drainBatches queue budget now ((datapath.device.ring queue).completed.length + 1)
          { link with datapath }
  (woken.drain queue none now).2

end Link

end FlowSteer
