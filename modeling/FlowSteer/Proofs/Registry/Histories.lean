import FlowSteer.Proofs.Atomicity
import FlowSteer.Proofs.Plane.Effects
import FlowSteer.Proofs.Registry.Carrying

/-!
# Histories of a registry

Whatever runs a registry does one operation on it after another, each at a time of a clock that does
not go back. `Registry.play` is the registry after such a history.

* `Ownership.seenSince_play`: a flow has been seen since its latest packet, wherever it has moved.
* `System.hasHistory_run`, `Plane.hasHistory_run`: the history of a registry goes on through every
  run of its system, or of its control plane, in which the clock does not go back.
-/

namespace FlowSteer

/-- An operation on a registry, with the time of the clock at which it is done. -/
structure TimedOp where
  time : Nat
  op : RegistryOp

/-- The clock does not go back. -/
def InOrder (history : List TimedOp) : Prop :=
  history.Pairwise fun earlier later => earlier.time ≤ later.time

instance : DecidablePred InOrder := fun history =>
  inferInstanceAs (Decidable (history.Pairwise fun earlier later => earlier.time ≤ later.time))

namespace Registry

variable {registry start before after : Registry} {flow : FlowId} {since time now : Nat}

/-- The registry after a history. -/
def play (registry : Registry) (history : List TimedOp) : Registry :=
  history.foldl (fun registry timed => timed.op.apply timed.time registry) registry

@[simp] theorem play_cons (registry : Registry) (timed : TimedOp) (history : List TimedOp) :
    registry.play (timed :: history) = (timed.op.apply timed.time registry).play history := rfl

theorem play_append (registry : Registry) (first second : List TimedOp) :
    registry.play (first ++ second) = (registry.play first).play second :=
  List.foldl_append

theorem play_concat (registry : Registry) (history : List TimedOp) (timed : TimedOp) :
    registry.play (history ++ [timed]) = timed.op.apply timed.time (registry.play history) :=
  registry.play_append history [timed]

theorem Ownership.play (own : registry.Ownership) (history : List TimedOp) :
    (registry.play history).Ownership := by
  induction history generalizing registry with
  | nil => exact own
  | cons timed rest ih => exact ih (own.registryOp timed.time timed.op)

/-! ## Since when a flow was seen -/

/-- Every entry of the flow has had a packet at some time or later. -/
def SeenSince (registry : Registry) (flow : FlowId) (since : Nat) : Prop :=
  ∀ id entry, registry.flow? id flow = some entry → since ≤ entry.lastSeen

theorem SeenSince.carries (seen : before.SeenSince flow since) (carries : Carries before after) :
    after.SeenSince flow since := by
  intro id entry found
  obtain ⟨source, old, present, same⟩ := carries id flow entry found
  calc since ≤ old.withoutLatency.lastSeen := seen source old present
    _ = entry.withoutLatency.lastSeen := congrArg Flow.lastSeen same.symm

/-- A packet is the latest of its flow, and the entries of other flows stay. -/
theorem SeenSince.countsPacket {id : QueueId} {key : FlowId} {size : Nat} {direction : Direction}
    (seen : before.SeenSince flow since) (later : since ≤ now)
    (counts : CountsPacket before after id key size direction now) :
    after.SeenSince flow since := by
  intro other entry found
  rw [counts.flow?_eq] at found
  split at found
  · cases found
    exact Nat.le_trans later (Nat.le_max_right _ _)
  · exact seen other entry found

namespace Ownership

/-- A flow that has been seen since some time still has been after an operation at a later time: it
is gone, or its entry is the same but for more recent packets. -/
theorem seenSince_apply (own : registry.Ownership) (seen : registry.SeenSince flow since)
    (later : since ≤ now) (op : RegistryOp) : (op.apply now registry).SeenSince flow since := by
  by_cases nothing : op.recordsNothing = true
  · exact seen.carries (own.carries_registryOp now op nothing)
  · cases op with
    | record id key size direction =>
        show (registry.record id key size direction now).2.SeenSince flow since
        cases taken : (registry.record id key size direction now).1 with
        | error error =>
            rw [registry.atomic_record id key size direction now error taken]
            exact seen
        | ok _ => exact seen.countsPacket later (own.countsPacket taken)
    | _ => exact absurd rfl nothing

theorem seenSince_play (own : registry.Ownership) (seen : registry.SeenSince flow since)
    {history : List TimedOp} (later : ∀ timed ∈ history, since ≤ timed.time) :
    (registry.play history).SeenSince flow since := by
  induction history generalizing registry with
  | nil => exact seen
  | cons timed rest ih =>
      obtain ⟨first, others⟩ := List.forall_mem_cons.1 later
      exact ih (own.registryOp timed.time timed.op) (own.seenSince_apply seen first timed.op) others

/-- A flow is seen when a packet of it is recorded. Its queue is the only one that has it. -/
theorem seenSince_record (own : registry.Ownership) {id : QueueId} {size : Nat}
    {direction : Direction} (taken : (registry.record id flow size direction now).1 = .ok ()) :
    (registry.record id flow size direction now).2.SeenSince flow now := by
  have counts := own.countsPacket taken
  intro other entry found
  rw [counts.flow?_eq] at found
  split at found
  · cases found
    exact Nat.le_max_right _ _
  · rename_i elsewhere
    have listed : registry.ownerOf flow = some other := own.listed.2 (by rw [found]; rfl)
    rcases counts.directory with ⟨owned, -⟩ | ⟨unowned, -⟩
    · rw [listed] at owned
      exact absurd ⟨Option.some.inj owned, rfl⟩ elsewhere
    · rw [listed] at unowned
      cases unowned

end Ownership

/-! ## Every run has a history -/

/-- A history in order, between two times of the clock, leads from one registry to the other. -/
def HasHistory (start : Registry) (since now : Nat) (registry : Registry) : Prop :=
  ∃ history, InOrder history ∧ (∀ timed ∈ history, since ≤ timed.time ∧ timed.time ≤ now) ∧
    registry = start.play history

namespace HasHistory

theorem refl (registry : Registry) (since now : Nat) : registry.HasHistory since now registry :=
  ⟨[], .nil, nofun, rfl⟩

/-- Time passes. -/
theorem mono (past : start.HasHistory since time registry) (passed : time ≤ now) :
    start.HasHistory since now registry := by
  obtain ⟨history, inOrder, between, result⟩ := past
  refine ⟨history, inOrder, ?_, result⟩
  intro timed member
  exact (between timed member).imp_right (Nat.le_trans · passed)

theorem step (past : start.HasHistory since now registry) (began : since ≤ now)
    (op : RegistryOp) : start.HasHistory since now (op.apply now registry) := by
  obtain ⟨history, inOrder, between, rfl⟩ := past
  refine ⟨history ++ [⟨now, op⟩], ?_, ?_, (start.play_concat history ⟨now, op⟩).symm⟩
  · refine List.pairwise_append.2 ⟨inOrder, List.pairwise_singleton _ _, ?_⟩
    intro earlier member last here
    rw [List.mem_singleton.1 here]
    exact (between earlier member).2
  · intro timed member
    rcases List.mem_append.1 member with earlier | here
    · exact between timed earlier
    · rw [List.mem_singleton.1 here]
      exact ⟨began, Nat.le_refl now⟩

theorem leads {kind : RegistryOp → Bool} (past : start.HasHistory since now before)
    (began : since ≤ now) (leads : Leads kind now before after) :
    start.HasHistory since now after :=
  leads.induct (fun _ op _ reached => reached.step began op) past

/-- Flows that were seen at the start have been seen since then. -/
theorem seenSince (past : start.HasHistory since now registry) (own : start.Ownership)
    (seen : start.SeenSince flow since) : registry.SeenSince flow since := by
  obtain ⟨history, -, between, rfl⟩ := past
  exact own.seenSince_play seen fun timed member => (between timed member).1

/-- So have flows of which a packet was recorded right before. -/
theorem seenSince_record {id : QueueId} {size : Nat} {direction : Direction}
    (past : (registry.record id flow size direction since).2.HasHistory since now after)
    (own : registry.Ownership)
    (taken : (registry.record id flow size direction since).1 = .ok ()) :
    after.SeenSince flow since := by
  have ownThen := own.registryOp since (.record id flow size direction)
  exact past.seenSince ownThen (own.seenSince_record taken)

end HasHistory

end Registry

open Registry (HasHistory)

variable {start : Registry} {since : Nat}

/-- The history of a registry goes on through a run of its system. -/
theorem System.hasHistory_run {system : System} {operations : List Operation}
    (past : start.HasHistory since system.clock.now system.registry)
    (began : since ≤ system.clock.now) (forward : system.Throughout Forward operations) :
    start.HasHistory since (system.run operations).clock.now (system.run operations).registry := by
  induction operations generalizing system with
  | nil => exact past
  | cons operation rest ih =>
      have led := past.leads began (system.leads_step operation)
      exact ih (led.mono forward.1) (Nat.le_trans began forward.1) forward.2

namespace Plane

/-- The clock does not go back in a run. -/
def Forward (plane : Plane) : List PlaneOp → Prop
  | [] => True
  | operation :: rest =>
      plane.clock.now ≤ (plane.step operation).clock.now ∧ (plane.step operation).Forward rest

theorem forward_append {plane : Plane} {first second : List PlaneOp} :
    plane.Forward (first ++ second) ↔
      plane.Forward first ∧ (plane.run first).Forward second := by
  induction first generalizing plane with
  | nil => simp [Forward, run]
  | cons operation rest ih =>
      rw [List.cons_append, Forward, Forward, ih, and_assoc]
      rfl

/-- The history of a registry goes on through a run of its control plane. -/
theorem hasHistory_run {plane : Plane} {operations : List PlaneOp}
    (past : start.HasHistory since plane.clock.now plane.registry)
    (began : since ≤ plane.clock.now) (forward : plane.Forward operations) :
    start.HasHistory since (plane.run operations).clock.now (plane.run operations).registry := by
  induction operations generalizing plane with
  | nil => exact past
  | cons operation rest ih =>
      have led := past.leads began (plane.leads_step operation)
      exact ih (led.mono forward.1) (Nat.le_trans began forward.1) forward.2

end Plane

end FlowSteer
