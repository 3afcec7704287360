import RoleDaemon.Http.JsonBody
import RoleDaemon.Http.Route
import RoleDaemon.Service.Execution

/-!
# Calls over HTTP

Each role answers calls at paths of its own.  The calls that reach the execution service are traced,
with their failures; a request whose body is refused is not.

Main definitions:
- `RoleService`: a role with the execution service behind it
- `RoleService.routes`: the paths of a role
- `RoleService.respond`: the answer to a request, and the state after it
-/

namespace RoleDaemon

open Http Metrics

/-- A role, and the execution service that answers its calls. -/
structure RoleService where
  role : Role
  service : ExecutionService
  deriving DecidableEq, Repr

/-- The calls. -/
inductive Call where
  | protocolVersion
  | planRequest
  | execTask
  deriving DecidableEq, Repr

/-- The name of a call in the trace. -/
def Call.method : Call → String
  | protocolVersion => "protocol_version"
  | planRequest => "plan_request"
  | execTask => "exec_task"

namespace RoleService

def protocolVersion : String := "1.0"

/-- The calls that a role answers. -/
def routes : Role → List (Route Call)
  | .planner => [
    ⟨"/rpc/protocol_version", .get, .protocolVersion⟩,
    ⟨"/rpc/plan_request", .post, .planRequest⟩]
  | .worker => [
    ⟨"/rpc/protocol_version", .get, .protocolVersion⟩,
    ⟨"/rpc/exec_task", .post, .execTask⟩]

def labels (service : RoleService) (call : Call) : CallLabels :=
  ⟨service.role.name, call.method⟩

/-- Traces a finished call, and answers with its result, or with its failure, which is reported. -/
def finish (service : RoleService) (call : Call) (occasion : Occasion) (result : Except Cause Json)
    (machine : Machine) : Response × Machine :=
  let traced := { machine with
    metrics := machine.metrics.modifyTrace fun trace =>
      trace.record (service.labels call) occasion.elapsed result.isOk }
  match result with
  | .ok value => (.json 200 value, traced)
  | .error cause =>
    (.json 500 (.obj [("error", .str cause.text)]),
      traced.report (.callFailed service.role call.method cause))

/-- Answers a call: reads the body, lets the execution service handle it, and traces it. -/
def answer (service : RoleService) (call : Call) (request : Request) (occasion : Occasion)
    (machine : Machine) : Response × Machine :=
  match call with
  | .protocolVersion =>
    (.json 200 (.obj [("role", .str service.role.name), ("version", .str protocolVersion)]), machine)
  | .planRequest =>
    match readJson PlanRequest.record default request with
    | .error fault => (fault.response, machine)
    | .ok planRequest =>
      let (result, metrics) := service.service.plan planRequest occasion machine.metrics
      service.finish call occasion (result.map PlanResult.toJson) { machine with metrics }
  | .execTask =>
    match readJson TaskRequest.record .blank request with
    | .error fault => (fault.response, machine)
    | .ok taskRequest =>
      let (result, metrics) := service.service.accept taskRequest occasion machine.metrics
      service.finish call occasion (result.map TaskResult.toJson) { machine with metrics }

/-- The answer to a request, and the state after it. -/
def respond (service : RoleService) (request : Request) (occasion : Occasion) (machine : Machine) :
    Response × Machine :=
  match dispatch (routes service.role) request with
  | .unknownPath => (notFound, machine)
  | .wrongMethod allowed => (methodNotAllowed allowed, machine)
  | .page call headOnly =>
    let (response, machine) := service.answer call request occasion machine
    (if headOnly then response.headOnly else response, machine)

end RoleService

end RoleDaemon
