import RoleDaemon.Identity
import RoleDaemon.Json.Read
import RoleDaemon.Machine
import RoleDaemon.Occasion
import RoleDaemon.Text.Blank

/-!
# The Execution Service

The two roles are served by one execution service.  The planner turns a request into one task for each
of its statements, to be run on this daemon, and the worker accepts every task with a body.

Main definitions:
- `Statements.ofRequest`: the statements of a request
- `ExecutionService`: the service, named by its daemon
- `ExecutionService.plan`, `ExecutionService.accept`: the calls of the planner and of the worker
-/

namespace RoleDaemon

open Metrics Text

/-! ## §1 Requests and Results -/

/-- A request to plan: statements with semicolons between them. -/
structure PlanRequest where
  request : String
  deriving DecidableEq, Repr, Inhabited

/-- A task, and the daemons that can run it. -/
structure TaskSpec where
  id : Uuid
  body : String
  hosts : List Identity
  deriving DecidableEq, Repr

/-- A planned request. -/
structure PlanResult where
  id : Uuid
  plannedBy : Identity
  tasks : List TaskSpec
  deriving DecidableEq, Repr

/-- A request to run a task. -/
structure TaskRequest where
  id : Uuid
  body : String
  deriving DecidableEq, Repr

/-- An accepted task. -/
structure TaskResult where
  handle : Uuid
  id : Uuid
  executedBy : Identity
  acceptedAt : Timestamp
  deriving DecidableEq, Repr

namespace PlanRequest

/-- The fields of a request to plan. -/
def record : Json.Record PlanRequest where
  expected := "struct PlanRequest"
  fields := [.of "request" true (.string "a string") fun request r => { r with request }]

end PlanRequest

namespace TaskRequest

/-- Reads an identifier from a string. -/
def readId : Json.Reader Uuid :=
  .parsed "a formatted UUID string" fun s =>
    match Uuid.parse s with
    | .ok id => .ok id
    | .error fault => .error ("UUID parsing failed: " ++ fault.message)

/-- The fields of a request to run a task. -/
def record : Json.Record TaskRequest where
  expected := "struct ExecTaskRequest"
  fields := [
    .of "task_id" true readId fun id r => { r with id },
    .of "task" true (.string "a string") fun body r => { r with body }]

/-- What the fields are read into. -/
def blank : TaskRequest := ⟨.ofNat 0, ""⟩

end TaskRequest

/-- A task as JSON. -/
def TaskSpec.toJson (task : TaskSpec) : Json :=
  .obj [("task_id", .str task.id.text), ("task", .str task.body),
    ("hosts", .arr (task.hosts.map fun host => .str host.text))]

/-- A planned request as JSON. -/
def PlanResult.toJson (plan : PlanResult) : Json :=
  .obj [("request_id", .str plan.id.text), ("planned_by", .str plan.plannedBy.text),
    ("tasks", .arr (plan.tasks.map TaskSpec.toJson))]

/-- An accepted task as JSON. -/
def TaskResult.toJson (result : TaskResult) : Json :=
  .obj [("handle", .str result.handle.text), ("task_id", .str result.id.text),
    ("executed_by", .str result.executedBy.text), ("accepted_at", .str result.acceptedAt.utc)]

/-! ## §2 Statements -/

/-- The statements of a request: what stands between the semicolons, without the blanks at both ends,
    and without the statements that are blank. -/
def PlanRequest.statements (request : PlanRequest) : List String :=
  (((pieces ';' request.request.toList).map trimChars).filter (!·.isEmpty)).map String.ofList

/-! ## §3 Calls -/

/-- The service, under the name of its daemon. -/
structure ExecutionService where
  id : Identity
  deriving DecidableEq, Repr

namespace ExecutionService

def plannedRequests : String := "recordservice.planner.requests"

def acceptedTasks : String := "recordservice.worker.tasks"

/-- The two counters as metrics. -/
def families : List Family := [
  .counter plannedRequests "Plan requests handled by this daemon",
  .counter acceptedTasks "Tasks accepted by this daemon"]

/-- Plans one task for each statement, to be run on this daemon.  The request is counted, unless it
    has no statements and is refused. -/
def plan (service : ExecutionService) (request : PlanRequest) (occasion : Occasion)
    (metrics : Registry) : Except Cause PlanResult × Registry :=
  match request.statements with
  | [] => (.error (.ofMessage "plan request contains no statements"), metrics)
  | statements =>
    let tasks := statements.mapIdx fun i body =>
      (⟨occasion.drawn i, body, [service.id]⟩ : TaskSpec)
    (.ok ⟨occasion.drawn statements.length, service.id, tasks⟩,
      metrics.increment plannedRequests 1)

/-- Accepts a task and counts it, unless its body is blank and it is refused. -/
def accept (service : ExecutionService) (request : TaskRequest) (occasion : Occasion)
    (metrics : Registry) : Except Cause TaskResult × Registry :=
  if (trimChars request.body.toList).isEmpty then
    (.error (.ofMessage ("task " ++ request.id.text ++ " has an empty body")), metrics)
  else
    (.ok ⟨occasion.drawn 0, request.id, service.id, occasion.now⟩,
      metrics.increment acceptedTasks 1)

end ExecutionService

end RoleDaemon
