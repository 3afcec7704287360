import RoleDaemon.Number.Binary64

/-!
# Latency Histograms

A histogram counts observations by size: an observation goes to the first bound that it does not
exceed, or beyond all bounds.

Main definitions:
- `Histogram.bounds`: the bounds, in seconds
- `Histogram.observe`: one more observation
- `Histogram.cumulative`: how many observations do not exceed each bound
- `Duration.seconds`: an elapsed time as a number of seconds
-/

namespace RoleDaemon.Metrics

/-- An elapsed time, in whole seconds and nanoseconds. -/
structure Duration where
  secs : Nat
  nanos : Nat
  deriving DecidableEq, Repr, Inhabited

/-- The elapsed time as a number: whole seconds and the fraction are rounded apart, and then summed.
    Nanoseconds beyond a second count as seconds. -/
def Duration.seconds (elapsed : Duration) : Binary64 :=
  let second := 1000000000
  let whole := elapsed.secs + elapsed.nanos / second
  let fraction := elapsed.nanos % second
  (Binary64.ofNat whole).add ((Binary64.ofNat fraction).div (Binary64.ofNat second))

/-- The observations of one pair of labels: how many fell to each bound, their sum, and their
    number. -/
structure Histogram where
  counts : List UInt64
  sum : Binary64
  count : UInt64
  deriving DecidableEq, Repr

namespace Histogram

/-- The bounds, from a tenth of a millisecond to five seconds. -/
def bounds : List Binary64 :=
  [1, 5, 10, 50, 100, 500, 1000, 5000, 10000, 50000].map fun n => Binary64.ofRatio n 10000

/-- No observations. -/
def empty : Histogram := ⟨bounds.map fun _ => 0, .zero, 0⟩

/-- The counts with one more for the first bound that the value does not exceed. -/
def place (value : Binary64) : List Binary64 → List UInt64 → List UInt64
  | bound :: bounds, count :: counts =>
    if value.le bound then (count + 1) :: counts else count :: place value bounds counts
  | _, counts => counts

def observe (value : Binary64) (h : Histogram) : Histogram :=
  { counts := place value bounds h.counts, sum := h.sum.add value, count := h.count + 1 }

def runningTotals (total : UInt64) : List UInt64 → List UInt64
  | [] => []
  | count :: counts => (total + count) :: runningTotals (total + count) counts

/-- How many observations do not exceed each bound. -/
def cumulative (h : Histogram) : List (Binary64 × UInt64) :=
  bounds.zip (runningTotals 0 h.counts)

/-- The mean of the observations in whole microseconds, 0 without any. -/
def meanMicros (h : Histogram) : UInt64 :=
  if h.count = 0 then 0
  else ((h.sum.div (Binary64.ofNat h.count.toNat)).mul (Binary64.ofNat 1000000)).roundToUInt64

end Histogram

end RoleDaemon.Metrics
