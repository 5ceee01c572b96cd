/-!
# Machine words

Numbers are natural numbers, and each is exact while it fits its word. Where the word runs over in
the course of what a device does, the definition says what happens then:

* a sum of 64 bits starts again at zero (`addWrapping`, `wordSize`): pending work, of one queue and
  of all, the clock, the sum of the latencies of a histogram;
* a number of 32 bits is cut (`wordSize32`): ids and nodes that come from counts, indices of
  buffers, the failures of an outage;
* a few sums stop at the largest word (`addSaturating`);
* a table with more bytes than can be allocated (`allocates`) stops the program, and so does a
  remainder by zero. Functions in which this can happen have a way out for it.

Bytes and latencies are added up in 64 bits, and the sums are exact while they fit. The other
counters count one event after another in 64 bits; automatic remaps are counted in 32 bits, but
never beyond their cap, which is a 32-bit word itself. Times are read off the clock.
-/

namespace FlowSteer

/-- The number of values of a 32-bit word. -/
def wordSize32 : Nat := UInt32.size

/-- The number of values of a 64-bit word. -/
def wordSize : Nat := UInt64.size

/-- The largest 64-bit word. -/
def wordMax : Nat := wordSize - 1

/-- Sum modulo `2 ^ 64`. -/
def addWrapping (a b : Nat) : Nat := (a + b) % wordSize

/-- Sum that stops at the largest 64-bit word. -/
def addSaturating (a b : Nat) : Nat := min (a + b) wordMax

/-- The most bytes that a table can have: the largest signed 64-bit word. -/
def tableMax : Nat := wordMax / 2

/-- Can a table be allocated, given the number of its entries and the bytes of each. Up to this
limit memory is taken to suffice. -/
def allocates (entries bytes : Nat) : Bool := entries * bytes ≤ tableMax

/-- `value` moved into `[low, high]`. -/
def clamp (low high value : Nat) : Nat := max low (min high value)

theorem addWrapping_lt (a b : Nat) : addWrapping a b < wordSize :=
  Nat.mod_lt _ (by decide)

theorem addWrapping_of_lt {a b : Nat} (fits : a + b < wordSize) : addWrapping a b = a + b :=
  Nat.mod_eq_of_lt fits

theorem addSaturating_le (a b : Nat) : addSaturating a b ≤ wordMax := Nat.min_le_right _ _

theorem le_clamp (low high value : Nat) : low ≤ clamp low high value := Nat.le_max_left _ _

theorem clamp_le {low high : Nat} (ordered : low ≤ high) (value : Nat) :
    clamp low high value ≤ high := by
  unfold clamp
  omega

theorem clamp_of_mem {low high value : Nat} (above : low ≤ value) (below : value ≤ high) :
    clamp low high value = value := by
  unfold clamp
  omega

end FlowSteer
