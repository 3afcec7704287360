import RoleDaemon.Http.Route
import RoleDaemon.Identity
import RoleDaemon.Metrics.Exposition
import RoleDaemon.Occasion
import RoleDaemon.Readiness

/-!
# The Diagnostic Pages

What can be read about a daemon while it runs: its health, readiness and identity, its metrics, its
live tasks and its calls.  Pages of other origins may read all of it.

Main definitions:
- `Diagnostics`: the daemon that the pages are about
- `Diagnostics.routes`: the paths
- `Diagnostics.respond`: the answer to a request, and the state after it
-/

namespace RoleDaemon

open Http Metrics

/-- The daemon that the pages are about, and its list of live tasks. -/
structure Diagnostics where
  identity : Identity
  tasks : Nat
  deriving DecidableEq, Repr

/-- The pages. -/
inductive Page where
  | health
  | readiness
  | identity
  | metrics
  | values
  | tasks
  | calls
  | resetCalls
  deriving DecidableEq, Repr

namespace Diagnostics

/-- The paths of the pages. -/
def routes : List (Route Page) := [
  ⟨"/health", .get, .health⟩,
  ⟨"/readyz", .get, .readiness⟩,
  ⟨"/identity", .get, .identity⟩,
  ⟨"/metrics", .get, .metrics⟩,
  ⟨"/varz", .get, .values⟩,
  ⟨"/threadz", .get, .tasks⟩,
  ⟨"/rpcz", .get, .calls⟩,
  ⟨"/rpcz/reset", .post, .resetCalls⟩]

def metricsType : String := "text/plain; version=0.0.4"

/-- A page, and the state after it was read. -/
def answer (diagnostics : Diagnostics) (page : Page) (occasion : Occasion) (machine : Machine) :
    Response × Machine :=
  match page with
  | .health =>
    (.json 200 (.obj [
      ("status", .str "healthy"), ("service_id", .str diagnostics.identity.text),
      ("timestamp", .str occasion.now.offset), ("uptime_seconds", .int occasion.uptime)]), machine)
  | .readiness =>
    let snapshot := Readiness.snapshot machine.metrics
    (.json (if snapshot.server then 200 else 503) snapshot.toJson, machine)
  | .identity => (.json 200 (.obj [("service_id", .str diagnostics.identity.text)]), machine)
  | .metrics =>
    (⟨200, [("content-type", metricsType)], .text machine.metrics.encode⟩, machine)
  | .values => (.json 200 machine.metrics.snapshot.toJson, machine)
  | .tasks => (.json 200 (machine.tasks diagnostics.tasks).toJson, machine)
  | .calls =>
    (.json 200 (.obj [
      ("methods", .arr (machine.metrics.trace.summary.map Rpc.MethodSummary.toJson))]),
      { machine with metrics := machine.metrics.modifyTrace Rpc.Trace.touched })
  | .resetCalls =>
    (.json 200 (.obj [("status", .str "ok")]),
      { machine with metrics := machine.metrics.modifyTrace Rpc.Trace.reset })

/-- The answer to a request, and the state after it. -/
def respond (diagnostics : Diagnostics) (request : Request) (occasion : Occasion)
    (machine : Machine) : Response × Machine :=
  if request.method = "OPTIONS" then
    (preflight ((route? routes request.path).map Route.verb), machine)
  else
    match dispatch routes request with
    | .unknownPath => (notFound.withHeaders permissive, machine)
    | .wrongMethod allowed => ((methodNotAllowed allowed).withHeaders permissive, machine)
    | .page page headOnly =>
      let (response, machine) := diagnostics.answer page occasion machine
      ((if headOnly then response.headOnly else response).withHeaders permissive, machine)

end Diagnostics

end RoleDaemon
