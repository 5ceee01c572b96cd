import FlowSteer.Link.Transfer
import FlowSteer.Proofs.Registry.Queues

/-!
# Where a packet is counted

Accounting for a packet asks one queue to count it and, when that queue names another owner of the
flow, asks the owner once. Each outcome is described by what the first queue answers:

* `account_of_counted`, `account_of_referred`: the packet is counted, at the queue or at the owner;
* `account_of_refused`: any other refusal makes the packet untracked.
-/

namespace FlowSteer

/-- A refused packet leaves the registry as it was. -/
theorem Registry.record_of_error {registry after : Registry} {id : QueueId} {flow : FlowId}
    {bytes : Nat} {direction : Direction} {now : Nat} {error : ControlError}
    (refused : registry.record id flow bytes direction now = (.error error, after)) :
    after = registry := by
  rcases registry.record_cases id flow bytes direction now with
    ⟨_, result⟩ | ⟨_, _, _, result⟩ | ⟨_, _, _, _, _, _, result⟩
  · rw [result] at refused
    exact (congrArg Prod.snd refused).symm
  · rw [result] at refused
    cases congrArg Prod.fst refused
  · rw [result] at refused
    cases congrArg Prod.fst refused

namespace Link

/-- One more packet that no queue could count. -/
def missed (link : Link) : Link :=
  link.count fun stats => { stats with untracked := stats.untracked + 1 }

@[simp] theorem registry_missed (link : Link) : link.missed.registry = link.registry := rfl

section Account

variable {link : Link} {id owner : QueueId} {flow other : FlowId} {bytes : Nat}
  {direction : Direction} {now : Nat} {after : Registry} {error : ControlError}

theorem account_of_counted
    (counted : link.registry.record id flow bytes direction now = (.ok (), after)) :
    link.account id flow bytes direction now = { link with registry := after } := by
  unfold account
  rw [counted]

theorem account_of_refused
    (refused : link.registry.record id flow bytes direction now = (.error error, after))
    (unreferred : ∀ other owner, error ≠ .ownedElsewhere other owner) :
    link.account id flow bytes direction now = link.missed := by
  have unchanged := Registry.record_of_error refused
  subst unchanged
  unfold account
  rw [refused]
  cases error with
  | ownedElsewhere other owner => exact absurd rfl (unreferred other owner)
  | _ => rfl

theorem account_of_referred
    (referred : link.registry.record id flow bytes direction now =
      (.error (.ownedElsewhere other owner), link.registry))
    (counted : link.registry.record owner flow bytes direction now = (.ok (), after)) :
    link.account id flow bytes direction now = { link with registry := after } := by
  unfold account
  rw [referred]
  simp only [counted]

/-- A packet is counted by one queue, or it is untracked. -/
theorem account_cases (link : Link) (id : QueueId) (flow : FlowId) (bytes : Nat)
    (direction : Direction) (now : Nat) :
    (∃ counting after, link.registry.record counting flow bytes direction now = (.ok (), after) ∧
      link.account id flow bytes direction now = { link with registry := after }) ∨
    ∃ refusing error, link.registry.record refusing flow bytes direction now =
        (.error error, link.registry) ∧
      link.account id flow bytes direction now = link.missed := by
  cases first : link.registry.record id flow bytes direction now with
  | mk outcome after =>
      cases outcome with
      | ok _ => exact .inl ⟨id, after, first, account_of_counted first⟩
      | error error =>
          have unchanged := Registry.record_of_error first
          subst unchanged
          by_cases referred : ∃ other owner, error = .ownedElsewhere other owner
          · obtain ⟨other, owner, rfl⟩ := referred
            cases second : link.registry.record owner flow bytes direction now with
            | mk outcome after =>
                cases outcome with
                | ok _ => exact .inl ⟨owner, after, second, account_of_referred first second⟩
                | error error =>
                    have unchanged := Registry.record_of_error second
                    subst unchanged
                    refine .inr ⟨owner, error, second, ?_⟩
                    unfold account
                    simp only [first, second]
                    rfl
          · exact .inr ⟨id, error, first,
              account_of_refused first fun other owner same => referred ⟨other, owner, same⟩⟩

/-- One queue counts the packet, or refuses it. -/
theorem registry_account (link : Link) (id : QueueId) (flow : FlowId) (bytes : Nat)
    (direction : Direction) (now : Nat) :
    ∃ counting, (link.account id flow bytes direction now).registry =
      (link.registry.record counting flow bytes direction now).2 := by
  rcases link.account_cases id flow bytes direction now with
    ⟨counting, after, counted, result⟩ | ⟨refusing, error, refused, result⟩
  · exact ⟨counting, by rw [result, counted]⟩
  · exact ⟨refusing, by rw [result, refused, registry_missed]⟩

/-- Of the datapath at most the count of untracked packets changes. -/
theorem datapath_account (link : Link) (id : QueueId) (flow : FlowId) (bytes : Nat)
    (direction : Direction) (now : Nat) :
    (link.account id flow bytes direction now).datapath = link.datapath ∨
      (link.account id flow bytes direction now).datapath = link.missed.datapath := by
  rcases link.account_cases id flow bytes direction now with
    ⟨_, _, _, result⟩ | ⟨_, _, _, result⟩
  · exact .inl (by rw [result])
  · exact .inr (by rw [result])

end Account

end Link

end FlowSteer
