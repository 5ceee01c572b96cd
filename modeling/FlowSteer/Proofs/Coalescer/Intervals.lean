import Mathlib.Algebra.Ring.Nat
import Mathlib.Data.List.Forall2
import FlowSteer.Coalescer
import FlowSteer.Proofs.Settings.Validity

/-!
# Coalescing intervals

The interval stays within its bounds, whatever changes it (`Coalescer.Bounded`). What ticks make of
it is told for a row of loads at once (`Coalescer.ticks`):

* `Bounded.interval_ticks_of_high`, `Bounded.interval_ticks_of_low`: ticks above the high mark, or
  below the low mark, come to one division or multiplication by a power of two, held at a bound.
  Within the bounds neither rounding nor the width of the word shows.
* `Bounded.interval_ticks_le`: more load at each tick gives no longer an interval.
-/

namespace FlowSteer

/-- Bounds that are not empty, and marks that are apart. -/
structure CoalesceSettings.Fits (settings : CoalesceSettings) : Prop where
  positive : 0 < settings.minUsecs.toNat
  ordered : settings.minUsecs.toNat ≤ settings.maxUsecs.toNat
  marks : settings.lowWater.toNat < settings.highWater.toNat

theorem CoalesceSettings.fits_of_valid {settings : CoalesceSettings}
    (valid : settings.validate = .ok ()) : settings.Fits := by
  rw [CoalesceSettings.validate_eq_ok_iff] at valid
  simp only [CoalesceSettings.problems, List.forall_mem_cons, Bool.or_eq_false_iff,
    beq_eq_false_iff_ne, decide_eq_false_iff_not, UInt32.not_lt, UInt64.not_le] at valid
  obtain ⟨⟨nonzero, ordered⟩, marks, -⟩ := valid
  exact ⟨UInt32.lt_iff_toNat_lt.1 (UInt32.pos_iff_ne_zero.2 nonzero),
    UInt32.le_iff_toNat_le.1 ordered, UInt64.lt_iff_toNat_lt.1 marks⟩

namespace Coalescer

/-- The interval lies within its bounds. -/
structure Bounded (coalescer : Coalescer) : Prop where
  least : coalescer.settings.minUsecs.toNat ≤ coalescer.interval
  greatest : coalescer.interval ≤ coalescer.settings.maxUsecs.toNat

variable {coalescer : Coalescer} {settings : CoalesceSettings}

/-! ## Settings -/

theorem ordered_of_valid (valid : settings.validate = .ok ()) :
    settings.minUsecs.toNat ≤ settings.maxUsecs.toNat :=
  (CoalesceSettings.fits_of_valid valid).ordered

theorem start_of_valid (valid : settings.validate = .ok ()) :
    start settings = .ok { settings, interval := settings.bound settings.initialUsecs.toNat } := by
  unfold start
  rw [valid]

theorem setSettings_of_valid (valid : settings.validate = .ok ()) (coalescer : Coalescer) :
    coalescer.setSettings settings =
      (.ok (), { settings, interval := settings.bound coalescer.interval }) := by
  unfold setSettings
  rw [valid]

theorem setSettings_of_invalid {error : ControlError} (invalid : settings.validate = .error error)
    (coalescer : Coalescer) : coalescer.setSettings settings = (.error error, coalescer) := by
  unfold setSettings
  rw [invalid]

/-! ## Bounds -/

theorem bounded_bound (ordered : settings.minUsecs.toNat ≤ settings.maxUsecs.toNat)
    (usecs : Nat) : Bounded { settings, interval := settings.bound usecs } :=
  ⟨le_clamp _ _ _, clamp_le ordered _⟩

theorem Bounded.ordered (bounded : coalescer.Bounded) :
    coalescer.settings.minUsecs.toNat ≤ coalescer.settings.maxUsecs.toNat :=
  Nat.le_trans bounded.least bounded.greatest

/-- The interval fits a 32-bit word. -/
theorem Bounded.lt_wordSize32 (bounded : coalescer.Bounded) : coalescer.interval < wordSize32 :=
  Nat.lt_of_le_of_lt bounded.greatest (UInt32.toNat_lt_size _)

theorem Bounded.setInterval (bounded : coalescer.Bounded) (usecs : Nat) :
    (coalescer.setInterval usecs).Bounded :=
  bounded_bound bounded.ordered usecs

/-- A tick moves the interval within its bounds. -/
theorem Bounded.tick (bounded : coalescer.Bounded) (pending : Nat) :
    (coalescer.tick pending).2.Bounded := by
  have fits : coalescer.settings.maxUsecs.toNat < wordSize32 := UInt32.toNat_lt_size _
  obtain ⟨least, greatest⟩ := bounded
  have moved : coalescer.settings.minUsecs.toNat ≤
      coalescer.settings.next pending coalescer.interval ∧
      coalescer.settings.next pending coalescer.interval ≤
        coalescer.settings.maxUsecs.toNat := by
    unfold CoalesceSettings.next CoalesceSettings.doubled
    split
    · exact ⟨least, greatest⟩
    · split
      · omega
      · split
        · omega
        · exact ⟨least, greatest⟩
  exact ⟨moved.1, moved.2⟩

/-! ## One tick -/

theorem next_of_high {pending : Nat} (adaptive : settings.adaptive = true)
    (high : settings.highWater.toNat < pending) (interval : Nat) :
    settings.next pending interval = max (interval / 2) settings.minUsecs.toNat := by
  simp only [CoalesceSettings.next, adaptive, high, Bool.not_true, Bool.false_eq_true, if_false,
    if_true]

/-- Where twice the interval does not fit the word, the bound is reached anyway. -/
theorem next_of_low {pending : Nat} (fits : settings.Fits) (adaptive : settings.adaptive = true)
    (low : pending < settings.lowWater.toNat) (interval : Nat) :
    settings.next pending interval = min (interval * 2) settings.maxUsecs.toNat := by
  have notHigh : ¬settings.highWater.toNat < pending := by
    have marks := fits.marks
    omega
  have word : settings.maxUsecs.toNat < wordSize32 := UInt32.toNat_lt_size _
  simp only [CoalesceSettings.next, CoalesceSettings.doubled, adaptive, notHigh, low, Bool.not_true,
    Bool.false_eq_true, if_false, if_true]
  omega

/-- More load and a shorter interval before give no longer an interval after. -/
theorem Bounded.next_le_next {first second : Nat}
    (firstBounded : Bounded { settings, interval := first })
    (secondBounded : Bounded { settings, interval := second }) (shorter : first ≤ second)
    {heavier lighter : Nat} (loads : lighter ≤ heavier) :
    settings.next heavier first ≤ settings.next lighter second := by
  have word : settings.maxUsecs.toNat < wordSize32 := UInt32.toNat_lt_size _
  obtain ⟨firstLeast, firstGreatest⟩ := firstBounded
  obtain ⟨secondLeast, secondGreatest⟩ := secondBounded
  simp only at firstLeast firstGreatest secondLeast secondGreatest
  unfold CoalesceSettings.next CoalesceSettings.doubled
  cases settings.adaptive with
  | false => exact shorter
  | true =>
      simp only [Bool.not_true, Bool.false_eq_true, if_false]
      -- The heavier load decides first: where it is not above a mark, the lighter one is not.
      by_cases high : settings.highWater.toNat < heavier
      · rw [if_pos high]
        split
        · omega
        · split <;> omega
      · have alsoNotHigh : ¬settings.highWater.toNat < lighter := by omega
        rw [if_neg high, if_neg alsoNotHigh]
        by_cases low : heavier < settings.lowWater.toNat
        · rw [if_pos low, if_pos (Nat.lt_of_le_of_lt loads low)]
          omega
        · rw [if_neg low]
          split <;> omega

/-! ## Rows of ticks -/

/-- The coalescer after a tick at each of some loads. -/
def ticks (coalescer : Coalescer) (loads : List Nat) : Coalescer :=
  loads.foldl (fun coalescer load => (coalescer.tick load).2) coalescer

@[simp] theorem ticks_cons (coalescer : Coalescer) (load : Nat) (loads : List Nat) :
    coalescer.ticks (load :: loads) = (coalescer.tick load).2.ticks loads := rfl

theorem max_half_div_pow (least interval steps : Nat) :
    max least (max (interval / 2) least / 2 ^ steps) = max least (interval / 2 ^ (steps + 1)) := by
  have split : interval / 2 ^ (steps + 1) = interval / 2 / 2 ^ steps := by
    rw [Nat.pow_succ', Nat.div_div_eq_div_mul]
  rw [split]
  rcases Nat.le_total (interval / 2) least with below | above
  · have floor : least / 2 ^ steps ≤ least := Nat.div_le_self _ _
    have halved : interval / 2 / 2 ^ steps ≤ least / 2 ^ steps := Nat.div_le_div_right below
    rw [Nat.max_eq_right below, Nat.max_eq_left floor,
      Nat.max_eq_left (Nat.le_trans halved floor)]
  · rw [Nat.max_eq_left above]

theorem min_twice_mul_pow (greatest interval steps : Nat) :
    min greatest (min (interval * 2) greatest * 2 ^ steps) =
      min greatest (interval * 2 ^ (steps + 1)) := by
  have split : interval * 2 ^ (steps + 1) = interval * 2 * 2 ^ steps := by
    rw [Nat.pow_succ', Nat.mul_assoc]
  rw [split]
  rcases Nat.le_total (interval * 2) greatest with below | above
  · rw [Nat.min_eq_left below]
  · have ceiling : greatest ≤ greatest * 2 ^ steps :=
      Nat.le_mul_of_pos_right _ (Nat.two_pow_pos steps)
    have doubled : greatest * 2 ^ steps ≤ interval * 2 * 2 ^ steps := Nat.mul_le_mul_right _ above
    rw [Nat.min_eq_right above, Nat.min_eq_left ceiling,
      Nat.min_eq_left (Nat.le_trans ceiling doubled)]

/-- Ticks above the high mark halve the interval as often as there are ticks, down to its bound. -/
theorem Bounded.interval_ticks_of_high {coalescer : Coalescer} (bounded : coalescer.Bounded)
    (adaptive : coalescer.settings.adaptive = true) {loads : List Nat}
    (high : ∀ load ∈ loads, coalescer.settings.highWater.toNat < load) :
    (coalescer.ticks loads).interval =
      max coalescer.settings.minUsecs.toNat (coalescer.interval / 2 ^ loads.length) := by
  induction loads generalizing coalescer with
  | nil =>
      show coalescer.interval = _
      rw [List.length_nil, Nat.pow_zero, Nat.div_one, Nat.max_eq_right bounded.least]
  | cons load rest ih =>
      obtain ⟨first, later⟩ := List.forall_mem_cons.1 high
      have halved : (coalescer.tick load).2.interval =
          max (coalescer.interval / 2) coalescer.settings.minUsecs.toNat :=
        next_of_high adaptive first coalescer.interval
      have settings : (coalescer.tick load).2.settings = coalescer.settings := rfl
      rw [ticks_cons, ih (bounded.tick load) adaptive later, halved, settings, max_half_div_pow,
        List.length_cons]

/-- Ticks below the low mark double the interval as often as there are ticks, up to its bound. -/
theorem Bounded.interval_ticks_of_low {coalescer : Coalescer} (bounded : coalescer.Bounded)
    (fits : coalescer.settings.Fits) (adaptive : coalescer.settings.adaptive = true)
    {loads : List Nat} (low : ∀ load ∈ loads, load < coalescer.settings.lowWater.toNat) :
    (coalescer.ticks loads).interval =
      min coalescer.settings.maxUsecs.toNat (coalescer.interval * 2 ^ loads.length) := by
  induction loads generalizing coalescer with
  | nil =>
      show coalescer.interval = _
      rw [List.length_nil, Nat.pow_zero, Nat.mul_one, Nat.min_eq_right bounded.greatest]
  | cons load rest ih =>
      obtain ⟨first, later⟩ := List.forall_mem_cons.1 low
      have doubled : (coalescer.tick load).2.interval =
          min (coalescer.interval * 2) coalescer.settings.maxUsecs.toNat :=
        next_of_low fits adaptive first coalescer.interval
      have settings : (coalescer.tick load).2.settings = coalescer.settings := rfl
      rw [ticks_cons, ih (bounded.tick load) fits adaptive later, doubled, settings, min_twice_mul_pow,
        List.length_cons]

/-- Of two rows of ticks from intervals in the same bounds, the one with more load at each tick and
the shorter interval at the start ends with the shorter interval. -/
theorem Bounded.interval_ticks_le {first second : Nat}
    (firstBounded : Bounded { settings, interval := first })
    (secondBounded : Bounded { settings, interval := second }) (shorter : first ≤ second)
    {heavier lighter : List Nat} (loads : List.Forall₂ (· ≥ ·) heavier lighter) :
    (ticks { settings, interval := first } heavier).interval ≤
      (ticks { settings, interval := second } lighter).interval := by
  induction loads generalizing first second with
  | nil => exact shorter
  | cons load _ ih =>
      exact ih (firstBounded.tick _) (secondBounded.tick _)
        (firstBounded.next_le_next secondBounded shorter load)

end Coalescer

end FlowSteer
