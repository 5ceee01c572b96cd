import FlowSteer.Binary64
import FlowSteer.Word

/-!
# Latency histogram

Samples are counted in eight buckets with fixed upper limits. A percentile is reported as the
limit of the bucket in which it falls.
-/

namespace FlowSteer

/-- Counts of latency samples, with their sum and their extremes. -/
structure Histogram where
  /-- Number of samples in each bucket, in the order of `Histogram.limits`. -/
  buckets : List Nat := List.replicate 8 0
  count : Nat := 0
  /-- Sum of the samples modulo `2 ^ 64`. -/
  sum : Nat := 0
  /-- Smallest sample, the largest word as long as there is none. -/
  least : Nat := wordMax
  /-- Largest sample. -/
  greatest : Nat := 0
deriving DecidableEq, Inhabited

/-- What a histogram shows at one moment. -/
structure HistogramView where
  count : Nat := 0
  sum : Nat := 0
  least : Nat := 0
  greatest : Nat := 0
  median : Nat := 0
  percentile99 : Nat := 0
deriving DecidableEq, Inhabited

namespace Histogram

/-- Upper limits of the buckets in nanoseconds, each belonging to its bucket; the last bucket is
open. -/
def limits : List Nat := [500, 1000, 2000, 5000, 10000, 50000, 100000, wordMax]

/-- The histogram without samples. -/
def empty : Histogram := {}

/-- Index of the bucket of a sample: the first whose limit is not below it. -/
def bucketOf (sample : Nat) : Nat := min (limits.findIdx (sample ≤ ·)) (limits.length - 1)

/-- Adds one sample. -/
def record (histogram : Histogram) (sample : Nat) : Histogram where
  buckets := histogram.buckets.modify (bucketOf sample) (· + 1)
  count := histogram.count + 1
  sum := addWrapping histogram.sum sample
  least := min histogram.least sample
  greatest := max histogram.greatest sample

/-- Adds samples one after another. -/
def recordAll (histogram : Histogram) (samples : List Nat) : Histogram :=
  samples.foldl record histogram

/-- Whole part of the average, 0 without samples. -/
def average (histogram : Histogram) : Nat := histogram.sum / histogram.count

/-- The first of some limits at which the running count of samples reaches a target, the largest
word if none does. -/
def limitReaching (target : Nat) : (running : Nat) → List (Nat × Nat) → Nat
  | _, [] => wordMax
  | running, (limit, samples) :: rest =>
      if target ≤ running + samples then limit else limitReaching target (running + samples) rest

/-- Number of samples that a percentile asks for. -/
def target (histogram : Histogram) (share : Binary64) : Nat := share.ceilProduct histogram.count

/-- Percentile, as the limit of its bucket; 0 without samples. -/
def percentile (histogram : Histogram) (share : Binary64) : Nat :=
  if histogram.count = 0 then 0
  else limitReaching (histogram.target share) 0 (limits.zip histogram.buckets)

/-- What the histogram shows now. -/
def view (histogram : Histogram) : HistogramView where
  count := histogram.count
  sum := histogram.sum
  least := if histogram.count = 0 then 0 else histogram.least
  greatest := histogram.greatest
  median := histogram.percentile .half
  percentile99 := histogram.percentile .ninetyNineHundredths

end Histogram

end FlowSteer
