import FlowSteer.Proofs.FlowOwnership
import FlowSteer.Proofs.Plane.Runs

/-!
# What a control plane does to its registry

A plane is brought up on an empty registry, and all that it and its parts do to the registry are
operations on it, one after another (`Plane.leads_newRegistry`, `Plane.leads_step`). What all
operations on the registry keep then holds of every plane that is reached: `Plane.ownership_run`.
-/

namespace FlowSteer

open Registry (Leads)

namespace Plane

variable {settings : Settings} {device : Device} {clock : Clock} {plane : Plane}
  {registry after : Registry} {now : Nat}

/-! ## Bring-up -/

theorem leads_newRegistry (made : newRegistry settings = .ok registry) :
    Leads (fun _ => true) now
      (.empty settings.maxQueues.toNat settings.flows.maxFlowsPerQueue.toNat) registry :=
  newRegistry_induct (fun _ id node leads => leads.step (.register id node) rfl) made
    (.refl _ now _)

/-! ## Operations -/

theorem leads_runDuty (time : Nat) (state : TickReport × Plane) (duty : Duty) :
    Leads (fun _ => true) now state.2.registry (runDuty time state duty).2.registry := by
  cases duty with
  | healthCheck =>
      have leads : Leads RegistryOp.byFailover now state.2.registry _ :=
        state.2.failover.leads_checkHealth state.2.health state.2.clock.now time
      exact leads.mono fun _ _ => rfl
  | adaptiveScheduling => exact .single (.rebalance state.2.planner) rfl
  | coalesce =>
      have same : (state.2.adaptCoalescing).2.registry = state.2.registry := by
        unfold adaptCoalescing
        simp only []
        split <;> rfl
      show Leads _ _ _ (state.2.adaptCoalescing).2.registry
      rw [same]
      exact .refl _ now state.2.registry
  | flowAging => exact .single (.forgetIdle time _) rfl

theorem leads_runDuties (time : Nat) (duties : List Duty) (state : TickReport × Plane) :
    Leads (fun _ => true) now state.2.registry (duties.foldl (runDuty time) state).2.registry := by
  induction duties generalizing state with
  | nil => exact .refl _ now state.2.registry
  | cons duty rest ih => exact (leads_runDuty time state duty).trans (ih _)

theorem leads_foldl {State : Type} (link : State → Link) {step : State → QueueId → State}
    (leads : ∀ state id, Leads (fun _ => true) now (link state).registry
      (link (step state id)).registry) (ids : List QueueId) (state : State) :
    Leads (fun _ => true) now (link state).registry (link (ids.foldl step state)).registry := by
  induction ids generalizing state with
  | nil => exact .refl _ now (link state).registry
  | cons id rest ih => exact (leads state id).trans (ih _)

/-- New settings do no more to registry and datapath than to push an interval to the device. -/
theorem link_updateSettings (plane : Plane) (settings : Settings) :
    (plane.updateSettings settings).2.link = plane.link ∨
    ∃ usecs, (plane.updateSettings settings).2.link = { plane.link with
      datapath := { plane.datapath with
        device := pushInterval plane.datapath.device plane.registry.queueIds usecs } } := by
  unfold updateSettings
  cases plane.settings.validateChange settings with
  | error error => exact .inl rfl
  | ok _ =>
      simp only []
      cases plane.coalescer.setSettings settings.coalesce with
      | mk outcome coalescer =>
          cases outcome with
          | error error => exact .inl rfl
          | ok _ =>
              simp only []
              split
              · exact .inl rfl
              · exact .inr ⟨coalescer.interval, rfl⟩

theorem registry_updateSettings (plane : Plane) (settings : Settings) :
    (plane.updateSettings settings).2.registry = plane.registry := by
  rcases plane.link_updateSettings settings with same | ⟨usecs, pushed⟩
  · exact congrArg Link.registry same
  · exact congrArg Link.registry pushed

theorem leads_closeQueue (now : Nat) (state : ShutdownReport × Link) (id : QueueId) :
    Leads (fun _ => true) now state.2.registry (closeQueue now state id).2.registry :=
  (state.2.leads_drain id none).mono fun _ _ => rfl

/-- An operation of the plane does to the registry what some operations on the registry do, one
after another. -/
theorem leads_step (plane : Plane) (operation : PlaneOp) :
    Leads (fun _ => true) plane.clock.now plane.registry (plane.step operation).registry := by
  cases operation with
  | part op => exact plane.system.leads_step op
  | tick time =>
      show Leads _ _ plane.registry (plane.tick time).2.registry
      unfold tick
      split
      · exact .refl _ _ plane.registry
      · exact leads_runDuties time _ (_, { plane with timers := _ })
  | updateSettings settings =>
      show Leads _ _ plane.registry (plane.updateSettings settings).2.registry
      rw [registry_updateSettings]
      exact .refl _ _ plane.registry
  | runWorkers =>
      exact leads_foldl (fun link => link)
        (fun link id => (link.leads_work id plane.workerBudget).mono fun _ _ => rfl)
        plane.registry.queueIds plane.link
  | shutdown =>
      show Leads _ _ plane.registry plane.shutdown.2.registry
      unfold shutdown
      split
      · exact .refl _ _ plane.registry
      · have closed := leads_foldl Prod.snd (leads_closeQueue plane.clock.now)
          plane.registry.queueIds ({}, plane.link)
        exact closed.step .forgetAll rfl
  | _ => exact .refl _ _ plane.registry

/-! ## Ownership -/

theorem ownership_of_leads (own : registry.Ownership)
    (leads : Leads (fun _ => true) now registry after) : after.Ownership :=
  leads.induct (fun _ op _ kept => kept.registryOp now op) own

theorem ownership_runDuty {state : TickReport × Plane} (own : state.2.registry.Ownership)
    (time : Nat) (duty : Duty) : (runDuty time state duty).2.registry.Ownership := by
  have leads : Leads (fun _ => true) time state.2.registry _ := leads_runDuty time state duty
  exact ownership_of_leads own leads

/-- In every plane that is reached tables and directory agree. -/
theorem ownership_run (started : start settings device clock = .ok plane)
    (operations : List PlaneOp) : (plane.run operations).registry.Ownership := by
  obtain ⟨registry, made⟩ := started_of_start started
  have registered : Leads (fun _ => true) clock.now _ registry := leads_newRegistry made.made
  have own : registry.Ownership := ownership_of_leads (.empty _ _) registered
  have bound : plane.registry.Ownership := by
    rw [made.assembled]
    exact own.of_keeps rfl (Registry.keeps_bind (fun _ _ => rfl) _)
  clear made started
  induction operations generalizing plane with
  | nil => exact bound
  | cons operation rest ih => exact ih (ownership_of_leads bound (plane.leads_step operation))

end Plane

end FlowSteer
