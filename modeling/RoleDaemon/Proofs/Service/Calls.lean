import RoleDaemon.Metrics.Registry
import RoleDaemon.Service.Calls

/-!
# What a Request Does to the State

A request to a role is one of three things: the call of the role, which reaches the execution service
and is accounted; a question for the version of the protocol; or a request that is refused.  Only the
first one changes the state, and it does so in the same way for both roles.

## Architecture

- `Role.call`, `Role.callPath`, `Role.counter`, `Role.labels`: what belongs to the call of a role
- `RoleService.dispatch_cases`: what a role makes of a request
- `RoleService.answer_cases`: a call is refused for its body, or accounted

Main statements:
- `RoleService.respond_cases`: the answer to a request, and what it changes
-/

namespace RoleDaemon

open Http Metrics

/-! ## §1 The Calls of the Roles -/

namespace Role

/-- The call that only this role answers. -/
def call : Role → Call
  | planner => .planRequest
  | worker => .execTask

/-- The path of this call. -/
def callPath : Role → String
  | planner => "/rpc/plan_request"
  | worker => "/rpc/exec_task"

/-- The counter of the handled calls. -/
def counter : Role → String
  | planner => ExecutionService.plannedRequests
  | worker => ExecutionService.acceptedTasks

/-- The labels under which the calls are traced. -/
def labels (role : Role) : CallLabels :=
  ⟨role.name, role.call.method⟩

theorem counter_injective {r s : Role} (h : r.counter = s.counter) : r = s := by
  revert h
  cases r <;> cases s <;> decide

/-- The calls of the two roles are not filed together. -/
theorem key_labels_injective {r s : Role} (h : r.labels.key = s.labels.key) : r = s := by
  revert h
  cases r <;> cases s <;> decide

end Role

namespace RoleService

/-- What a role does with a request: it goes to the call of the role, or it asks for the version of the
    protocol, or it is refused before any call. -/
theorem dispatch_cases (role : Role) (request : Request) :
    (dispatch (routes role) request = .page role.call false ∧
      request.method = "POST" ∧ request.path = role.callPath) ∨
    (¬ (request.method = "POST" ∧ request.path = role.callPath) ∧
      ((∃ headOnly, dispatch (routes role) request = .page .protocolVersion headOnly) ∨
        (∃ allowed, dispatch (routes role) request = .wrongMethod allowed) ∨
        dispatch (routes role) request = .unknownPath)) := by
  have hroute : route? (routes role) request.path =
      if request.path = "/rpc/protocol_version" then
        some ⟨"/rpc/protocol_version", .get, .protocolVersion⟩
      else if request.path = role.callPath then some ⟨role.callPath, .post, role.call⟩
      else none := by
    cases role <;> simp only [route?, routes, List.find?] <;> grind [Role.callPath, Role.call]
  -- the paths of a role are different, so the cases of the path are those of the route
  have hne : "/rpc/protocol_version" ≠ role.callPath := by
    cases role <;> decide
  unfold dispatch
  rw [hroute]
  by_cases hversion : request.path = "/rpc/protocol_version"
  · right
    refine ⟨fun h => hne (hversion.symm.trans h.2), ?_⟩
    simp only [if_pos hversion]
    by_cases hget : request.method = "GET"
    · exact .inl ⟨false, if_pos hget⟩
    · rw [if_neg hget]
      by_cases hhead : request.method = "HEAD"
      · exact .inl ⟨true, if_pos hhead⟩
      · exact .inr (.inl ⟨.get, if_neg hhead⟩)
  · by_cases hcall : request.path = role.callPath
    · simp only [if_neg hversion, if_pos hcall]
      by_cases hpost : request.method = "POST"
      · exact .inl ⟨if_pos hpost, hpost, hcall⟩
      · exact .inr ⟨fun h => hpost h.1, .inr (.inl ⟨.post, if_neg hpost⟩)⟩
    · simp only [if_neg hversion, if_neg hcall]
      exact .inr ⟨fun h => hcall h.2, .inr (.inr trivial)⟩

variable (service : RoleService) (request : Request) (occasion : Occasion) (machine : Machine)

/-- The metrics after a call that reached the service: it is counted when it was handled, and traced in
    any case. -/
def accounted (role : Role) (elapsed : Duration) (ok : Bool) (metrics : Registry) : Registry :=
  (if ok then metrics.increment role.counter 1 else metrics).modifyTrace fun trace =>
    trace.record role.labels elapsed ok

theorem finish_spec (call : Call) (result : Except Cause Json) :
    (service.finish call occasion result machine).1.status = (if result.isOk then 200 else 500) ∧
      (service.finish call occasion result machine).2.metrics =
        machine.metrics.modifyTrace fun trace =>
          trace.record (service.labels call) occasion.elapsed result.isOk := by
  cases result <;> exact ⟨rfl, rfl⟩

theorem plan_spec (execution : ExecutionService) (plan : PlanRequest) (metrics : Registry) :
    (execution.plan plan occasion metrics).2 =
      if (execution.plan plan occasion metrics).1.isOk then
        metrics.increment ExecutionService.plannedRequests 1
      else metrics := by
  unfold ExecutionService.plan
  split <;> rfl

theorem accept_spec (execution : ExecutionService) (task : TaskRequest) (metrics : Registry) :
    (execution.accept task occasion metrics).2 =
      if (execution.accept task occasion metrics).1.isOk then
        metrics.increment ExecutionService.acceptedTasks 1
      else metrics := by
  unfold ExecutionService.accept
  split <;> rfl

/-- A call whose body is refused leaves no trace; any other one reaches the service, and is
    accounted. -/
theorem answer_cases :
    (∃ fault : BodyFault,
      service.answer service.role.call request occasion machine = (fault.response, machine)) ∨
    (∃ ok response machine',
      service.answer service.role.call request occasion machine = (response, machine') ∧
      response.status = (if ok then 200 else 500) ∧
      machine'.metrics = accounted service.role occasion.elapsed ok machine.metrics) := by
  -- whatever the service did, the call is finished in one way
  have hfinished : ∀ (result : Except Cause Json) (metrics : Registry),
      metrics = (if result.isOk then machine.metrics.increment service.role.counter 1
        else machine.metrics) →
      ∃ ok response machine',
        service.finish service.role.call occasion result { machine with metrics } =
          (response, machine') ∧
        response.status = (if ok then 200 else 500) ∧
        machine'.metrics = accounted service.role occasion.elapsed ok machine.metrics := by
    rintro result metrics rfl
    obtain ⟨hstatus, hmetrics⟩ := service.finish_spec occasion
      { machine with metrics := if result.isOk then machine.metrics.increment service.role.counter 1
          else machine.metrics } service.role.call result
    exact ⟨result.isOk, _, _, rfl, hstatus, hmetrics⟩
  obtain ⟨role, execution⟩ := service
  cases role with
  | planner =>
    simp only [answer, Role.call]
    cases readJson PlanRequest.record default request with
    | error fault => exact .inl ⟨fault, rfl⟩
    | ok plan =>
      right
      apply hfinished
      rw [plan_spec]
      cases (execution.plan plan occasion machine.metrics).1 <;> rfl
  | worker =>
    simp only [answer, Role.call]
    cases readJson TaskRequest.record .blank request with
    | error fault => exact .inl ⟨fault, rfl⟩
    | ok task =>
      right
      apply hfinished
      rw [accept_spec]
      cases (execution.accept task occasion machine.metrics).1 <;> rfl

/-- The request is the call of the role. -/
def isCall (role : Role) (request : Request) : Bool :=
  request.method = "POST" && request.path = role.callPath

/-- The statuses of requests that are refused before they reach the service. -/
def refusals : List Nat := [404, 405, 413, 415, 400, 422]

theorem status_fault (fault : BodyFault) : fault.response.status ∈ refusals := by
  cases fault with
  | unreadable error =>
    cases hcategory : error.fault.category <;>
      simp [BodyFault.response, hcategory, Response.plain, refusals]
  | _ => simp [BodyFault.response, Response.plain, refusals]

/-- A request is the call of its role, answered with success or failure and accounted, or it is refused or
    asks for the version, and changes nothing. -/
theorem respond_cases :
    (∃ ok : Bool, isCall service.role request ∧
      (service.respond request occasion machine).1.status = (if ok then 200 else 500) ∧
      (service.respond request occasion machine).2.metrics =
        accounted service.role occasion.elapsed ok machine.metrics) ∨
    ((service.respond request occasion machine).2 = machine ∧
      ((service.respond request occasion machine).1.status ∈ refusals ∨
        ¬ isCall service.role request ∧
          (service.respond request occasion machine).1.status = 200)) := by
  unfold respond
  obtain ⟨hdispatch, hcall⟩ | ⟨hother, hdispatch⟩ := dispatch_cases service.role request
  · rw [hdispatch]
    obtain ⟨fault, hrefused⟩ | ⟨ok, response, machine', hanswer, hstatus, hmetrics⟩ :=
      service.answer_cases request occasion machine
    · -- the body is refused before the call
      right
      simp only [hrefused]
      exact ⟨trivial, .inl (status_fault fault)⟩
    · left
      simp only [hanswer]
      exact ⟨ok, by simpa [isCall] using hcall, hstatus, hmetrics⟩
  · right
    have hnoCall : ¬ isCall service.role request := by simpa [isCall] using hother
    obtain ⟨headOnly, hdispatch⟩ | ⟨allowed, hdispatch⟩ | hdispatch := hdispatch
    · rw [hdispatch]
      cases headOnly <;> exact ⟨rfl, .inr ⟨hnoCall, rfl⟩⟩
    · rw [hdispatch]
      exact ⟨rfl, .inl (by simp [refusals, methodNotAllowed])⟩
    · rw [hdispatch]
      exact ⟨rfl, .inl (by simp [refusals, notFound, Response.bare])⟩

end RoleService

end RoleDaemon
