import FlowSteer.Proofs.Coalescer.Intervals

/-!
# The course of the coalescing interval

A coalescer ticks, has its interval set by hand, and is given other settings, some of which it
refuses. `Coalescer.Conforms` is what holds in every state that this leads to: the interval is in
the bounds that are in force, a tick reports what it does, and steady load takes the interval to a
bound in the steps of a division or multiplication by a power of two.

1. `Coalescer.conforms_run`: a coalescer can be started with all valid settings, and conforms after
   every run.
2. `Coalescer.interval_take_le`: of two coalescers with the same settings, the one that has the
   shorter interval and never less load keeps the shorter interval.
-/

namespace FlowSteer

/-- An operation of a coalescer. -/
inductive CoalescerOp where
  | tick (pending : Nat)
  | setInterval (usecs : Nat)
  | setSettings (settings : CoalesceSettings)

/-- A step names the intervals before and after it, and the way from one to the other. -/
structure IntervalStep.Reports (step : IntervalStep) (before after : Nat) : Prop where
  previous : step.previous = before
  current : step.current = after
  halved : step.move = .halved ↔ after < before
  doubled : step.move = .doubled ↔ before < after
  held : step.move = .held ↔ after = before

namespace Coalescer

/-- The coalescer after an operation. -/
def step (coalescer : Coalescer) : CoalescerOp → Coalescer
  | .tick pending => (coalescer.tick pending).2
  | .setInterval usecs => coalescer.setInterval usecs
  | .setSettings settings => (coalescer.setSettings settings).2

/-- The coalescer after a sequence of operations. -/
def run (coalescer : Coalescer) (operations : List CoalescerOp) : Coalescer :=
  operations.foldl step coalescer

/-- Where steady load takes the interval. -/
structure Converges (coalescer : Coalescer) : Prop where
  falls : ∀ {loads : List Nat}, (∀ load ∈ loads, coalescer.settings.highWater.toNat < load) →
    (coalescer.ticks loads).interval =
      max coalescer.settings.minUsecs.toNat (coalescer.interval / 2 ^ loads.length)
  rises : ∀ {loads : List Nat}, (∀ load ∈ loads, load < coalescer.settings.lowWater.toNat) →
    (coalescer.ticks loads).interval =
      min coalescer.settings.maxUsecs.toNat (coalescer.interval * 2 ^ loads.length)
  /-- As many ticks as a word has bits are enough. -/
  fallen : ∀ {loads : List Nat}, 32 ≤ loads.length →
    (∀ load ∈ loads, coalescer.settings.highWater.toNat < load) →
    (coalescer.ticks loads).interval = coalescer.settings.minUsecs.toNat
  risen : ∀ {loads : List Nat}, 32 ≤ loads.length →
    (∀ load ∈ loads, load < coalescer.settings.lowWater.toNat) →
    (coalescer.ticks loads).interval = coalescer.settings.maxUsecs.toNat

/-- What a coalescer does in a state. -/
structure Conforms (coalescer : Coalescer) : Prop where
  bounded : coalescer.Bounded
  reports : ∀ pending, (coalescer.tick pending).1.Reports coalescer.interval
    (coalescer.tick pending).2.interval
  /-- Valid settings are in force from then on, and the interval is in their bounds. -/
  taken : ∀ {settings : CoalesceSettings}, settings.validate = .ok () →
    (coalescer.setSettings settings).1 = .ok () ∧
      (coalescer.setSettings settings).2.settings = settings ∧
      (coalescer.setSettings settings).2.Bounded
  /-- Other settings are refused and change nothing. -/
  refused : ∀ {settings : CoalesceSettings} {error}, settings.validate = .error error →
    coalescer.setSettings settings = (.error error, coalescer)
  /-- Adaptation by the settings in force takes every interval within their bounds to a bound. -/
  converges : coalescer.settings.adaptive = true → ∀ interval,
    Bounded { coalescer with interval } → Converges { coalescer with interval }

variable {coalescer : Coalescer} {settings : CoalesceSettings}

theorem reports_tick (coalescer : Coalescer) (pending : Nat) :
    (coalescer.tick pending).1.Reports coalescer.interval
      (coalescer.tick pending).2.interval := by
  let before := coalescer.interval
  let after := coalescer.settings.next pending before
  show IntervalStep.Reports {
    previous := before
    current := after
    move := if after < before then .halved else if before < after then .doubled else .held }
      before after
  rcases Nat.lt_trichotomy after before with less | same | more
  · rw [if_pos less]
    exact ⟨rfl, rfl, iff_of_true rfl less, iff_of_false nofun (Nat.lt_asymm less),
      iff_of_false nofun (Nat.ne_of_lt less)⟩
  · have notLess : ¬after < before := Nat.not_lt_of_le (Nat.le_of_eq same.symm)
    have notMore : ¬before < after := Nat.not_lt_of_le (Nat.le_of_eq same)
    rw [if_neg notLess, if_neg notMore]
    exact ⟨rfl, rfl, iff_of_false nofun notLess, iff_of_false nofun notMore, iff_of_true rfl same⟩
  · rw [if_neg (Nat.lt_asymm more), if_pos more]
    exact ⟨rfl, rfl, iff_of_false nofun (Nat.lt_asymm more), iff_of_true rfl more,
      iff_of_false nofun (Nat.ne_of_gt more)⟩

theorem Bounded.converges (bounded : coalescer.Bounded) (fits : coalescer.settings.Fits)
    (adaptive : coalescer.settings.adaptive = true) : coalescer.Converges where
  falls := bounded.interval_ticks_of_high adaptive
  rises := bounded.interval_ticks_of_low fits adaptive
  fallen := by
    intro loads enough high
    have word : coalescer.interval < 2 ^ 32 := bounded.lt_wordSize32
    have power : 2 ^ 32 ≤ 2 ^ loads.length := Nat.pow_le_pow_right (by decide) enough
    rw [bounded.interval_ticks_of_high adaptive high,
      Nat.div_eq_of_lt (Nat.lt_of_lt_of_le word power), Nat.max_zero]
  risen := by
    intro loads enough low
    have word : coalescer.settings.maxUsecs.toNat < 2 ^ 32 := UInt32.toNat_lt_size _
    have power : 2 ^ 32 ≤ 2 ^ loads.length := Nat.pow_le_pow_right (by decide) enough
    have positive : 0 < coalescer.interval := Nat.lt_of_lt_of_le fits.positive bounded.least
    have grown : 2 ^ loads.length ≤ coalescer.interval * 2 ^ loads.length :=
      Nat.le_mul_of_pos_left _ positive
    rw [bounded.interval_ticks_of_low fits adaptive low, Nat.min_eq_left]
    omega

/-! ## Runs -/

/-- The settings in force are valid, and the interval is in their bounds. -/
structure Sound (coalescer : Coalescer) : Prop where
  valid : coalescer.settings.validate = .ok ()
  bounded : coalescer.Bounded

namespace Sound

theorem of_valid (valid : settings.validate = .ok ()) (usecs : Nat) :
    Sound { settings, interval := settings.bound usecs } :=
  ⟨valid, bounded_bound (ordered_of_valid valid) usecs⟩

theorem step (sound : coalescer.Sound) (operation : CoalescerOp) :
    (coalescer.step operation).Sound := by
  cases operation with
  | tick pending => exact ⟨sound.valid, sound.bounded.tick pending⟩
  | setInterval usecs => exact of_valid sound.valid usecs
  | setSettings settings =>
      show (coalescer.setSettings settings).2.Sound
      cases checked : settings.validate with
      | error error =>
          rw [setSettings_of_invalid checked]
          exact sound
      | ok _ =>
          rw [setSettings_of_valid checked]
          exact of_valid checked coalescer.interval

theorem run (sound : coalescer.Sound) (operations : List CoalescerOp) :
    (coalescer.run operations).Sound := by
  induction operations generalizing coalescer with
  | nil => exact sound
  | cons operation rest ih => exact ih (sound.step operation)

theorem conforms (sound : coalescer.Sound) : coalescer.Conforms where
  bounded := sound.bounded
  reports := coalescer.reports_tick
  taken := by
    intro settings valid
    rw [setSettings_of_valid valid]
    exact ⟨rfl, rfl, (of_valid valid coalescer.interval).bounded⟩
  refused := fun invalid => setSettings_of_invalid invalid coalescer
  converges := fun adaptive _ bounded =>
    bounded.converges (CoalesceSettings.fits_of_valid sound.valid) adaptive

end Sound

/-- With valid settings a coalescer can be started, and it conforms after every run. -/
theorem conforms_run (valid : settings.validate = .ok ()) :
    ∃ coalescer, start settings = .ok coalescer ∧
      ∀ operations, (coalescer.run operations).Conforms :=
  ⟨_, start_of_valid valid, fun operations =>
    ((Sound.of_valid valid settings.initialUsecs.toNat).run operations).conforms⟩

/-- Between the widest bounds the way up takes all of the 32 ticks. -/
theorem conforms_run_of_widest_bounds :
    let settings : CoalesceSettings := { minUsecs := 1, maxUsecs := 4294967295 }
    let coalescer : Coalescer := { settings, interval := 64 }
    let lowered := coalescer.run [.setInterval 0, .setSettings { minUsecs := 9, maxUsecs := 8 }]
    settings.validate = .ok () ∧ start settings = .ok coalescer ∧
      (∃ started, start settings = .ok started ∧ ∀ operations, (started.run operations).Conforms) ∧
      lowered = { settings, interval := 1 } ∧
      (lowered.ticks (List.replicate 31 99)).interval = 2147483648 ∧
      (lowered.ticks (List.replicate 32 99)).interval = 4294967295 := by
  intro settings coalescer lowered
  have valid : settings.validate = .ok () := rfl
  exact ⟨valid, rfl, conforms_run valid, by decide, by decide +kernel, by decide +kernel⟩

/-! ## Load -/

/-- Of two coalescers with the same settings, the one with the shorter interval and never less load
has the shorter interval after every part of both rows of ticks. -/
theorem interval_take_le {first second : Nat}
    (firstBounded : Bounded { settings, interval := first })
    (secondBounded : Bounded { settings, interval := second }) (shorter : first ≤ second)
    {heavier lighter : List Nat} (loads : List.Forall₂ (· ≥ ·) heavier lighter) (taken : Nat) :
    (ticks { settings, interval := first } (heavier.take taken)).interval ≤
      (ticks { settings, interval := second } (lighter.take taken)).interval :=
  firstBounded.interval_ticks_le secondBounded shorter (List.forall₂_take taken loads)

/-- One coalescer is held back by its bound while the other stays between the marks. -/
theorem interval_take_le_between_marks :
    let settings : CoalesceSettings := {}
    let heavier := [5000, 1000, 50]
    let lighter := [100, 99, 0]
    Bounded { settings, interval := 10 } ∧ Bounded { settings, interval := 40 } ∧
      List.Forall₂ (· ≥ ·) heavier lighter ∧
      (∀ taken, (ticks { settings, interval := 10 } (heavier.take taken)).interval ≤
        (ticks { settings, interval := 40 } (lighter.take taken)).interval) ∧
      (ticks { settings, interval := 10 } heavier).interval = 16 ∧
      (ticks { settings, interval := 40 } lighter).interval = 128 := by
  intro settings heavier lighter
  have firstBounded : Bounded { settings, interval := 10 } := ⟨by decide, by decide⟩
  have secondBounded : Bounded { settings, interval := 40 } := ⟨by decide, by decide⟩
  have loads : List.Forall₂ (· ≥ ·) heavier lighter := by decide
  exact ⟨firstBounded, secondBounded, loads,
    interval_take_le firstBounded secondBounded (by decide) loads, by decide, by decide⟩

end Coalescer

end FlowSteer
