import RoleDaemon.Json.Value
import RoleDaemon.Metrics.Histogram
import RoleDaemon.Metrics.Series

/-!
# RPC Traces

The daemon counts its calls, its failed calls and their latency by service and method, and remembers
which pairs were called since the last reset.

Main definitions:
- `Trace`: the three series, and the pairs that were called
- `Trace.record`: one more call
- `Trace.summary`: one line for each pair that was called
- `Trace.reset`: forgets everything
-/

namespace RoleDaemon.Rpc

open Metrics

/-- The calls since the last reset: the series of calls, failed calls and latency, and the pairs that
    were called, in order. -/
structure Trace where
  calls : Series UInt64
  errors : Series UInt64
  latency : Series Histogram
  seen : List CallLabels
  deriving Repr

/-- What is told about one pair. -/
structure MethodSummary where
  labels : CallLabels
  calls : UInt64
  errors : UInt64
  meanMicros : UInt64
  deriving DecidableEq, Repr

namespace Trace

/-- Nothing was called. -/
def empty : Trace := ⟨.empty, .empty, .empty, []⟩

/-- The pairs with one more, kept in order and each one once. -/
def insertSeen (labels : CallLabels) : List CallLabels → List CallLabels
  | [] => [labels]
  | other :: rest =>
    if labels.before other then labels :: other :: rest
    else if other.before labels then other :: insertSeen labels rest
    else other :: rest

/-- One more call, with its latency, and whether it succeeded. -/
def record (trace : Trace) (labels : CallLabels) (elapsed : Duration) (ok : Bool) : Trace :=
  { calls := trace.calls.update 0 (· + 1) labels
    errors := if ok then trace.errors else trace.errors.update 0 (· + 1) labels
    latency := trace.latency.update .empty (Histogram.observe elapsed.seconds) labels
    seen := insertSeen labels trace.seen }

/-- The trace after its summary was read: every pair that was called has a value in each series. -/
def touched (trace : Trace) : Trace :=
  { trace with
    calls := trace.seen.foldl (fun s labels => s.touch 0 labels) trace.calls
    errors := trace.seen.foldl (fun s labels => s.touch 0 labels) trace.errors
    latency := trace.seen.foldl (fun s labels => s.touch .empty labels) trace.latency }

/-- One line for each pair that was called, in the order of the pairs. -/
def summary (trace : Trace) : List MethodSummary :=
  trace.seen.map fun labels =>
    { labels
      calls := (trace.calls.get? labels).getD 0
      errors := (trace.errors.get? labels).getD 0
      meanMicros := ((trace.latency.get? labels).getD .empty).meanMicros }

/-- Forgets all calls. -/
def reset (_ : Trace) : Trace := empty

end Trace

/-- A line of a summary, as JSON. -/
def MethodSummary.toJson (line : MethodSummary) : Json :=
  .obj [("service", .str line.labels.service), ("method", .str line.labels.method),
    ("calls", .nat line.calls.toNat), ("errors", .nat line.errors.toNat),
    ("mean_micros", .nat line.meanMicros.toNat)]

end RoleDaemon.Rpc
