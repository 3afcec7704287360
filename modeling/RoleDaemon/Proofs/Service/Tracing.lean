import RoleDaemon.Proofs.Service.Accounts

/-!
# Which Calls Are Traced

A request whose method and path are those of a route of its role, and that the handler of the route
answers, is a call.  Each call is traced once, under the role and the method of its route, and as a
failure if it was answered with one; but the question for the version of the protocol, which both roles
answer, is not traced.

## Architecture

- `RoleService.matched?`: the call whose route a request matches; `matched?_eq`: which this is
- `Answered.call?`: the call that was answered by its handler
- `RoleService.respond_traces`: what one request adds to the trace
- `sum_calls_summary`: the sum of all lines of a summary

Main statements:
- `Session.calls_are_traced`: what the trace tells after any traffic, and what is missing there
-/

namespace RoleDaemon

open Http Metrics Rpc

/-! ## §1 Calls -/

/-- The method of a request for a route. -/
def Http.Verb.method : Verb → String
  | get => "GET"
  | post => "POST"

namespace RoleService

/-- The call of the role's route that has the path and the method of the request. -/
def matched? (role : Role) (request : Request) : Option Call :=
  ((routes role).find? fun route =>
    route.path = request.path && route.verb.method = request.method).map (·.page)

/-- A request matches the route of its role's own call, or the one of the version, or none. -/
theorem matched?_eq (role : Role) (request : Request) :
    matched? role request =
      if isCall role request then some role.call
      else if request.method = "GET" ∧ request.path = "/rpc/protocol_version" then
        some .protocolVersion
      else none := by
  cases role <;> simp only [matched?, routes, List.find?, isCall, Verb.method] <;>
    grind [Role.callPath, Role.call]

theorem matched?_of_isCall {role : Role} {request : Request} (h : isCall role request) :
    matched? role request = some role.call := by
  rw [matched?_eq, if_pos h]

/-- What matches without being the role's own call asks for the version. -/
theorem eq_protocolVersion_of_matched? {role : Role} {request : Request} {call : Call}
    (hmatched : matched? role request = some call) (hother : ¬isCall role request) :
    call = .protocolVersion := by
  rw [matched?_eq, if_neg hother] at hmatched
  split at hmatched
  · exact (Option.some.inj hmatched).symm
  · cases hmatched

theorem call_ne_protocolVersion (role : Role) : role.call ≠ .protocolVersion := by
  cases role <;> decide

end RoleService

/-- The call that was answered by its handler, with success or failure. -/
def Answered.call? (answered : Answered) : Option Call :=
  if answered.status ∈ [200, 500] then RoleService.matched? answered.role answered.request else none

theorem Answered.status_of_call? {answered : Answered} {call : Call}
    (hcall : answered.call? = some call) : answered.status = 200 ∨ answered.status = 500 := by
  unfold call? at hcall
  split at hcall
  · rename_i hstatus
    simpa using hstatus
  · cases hcall

theorem Answered.matched?_of_call? {answered : Answered} {call : Call}
    (hcall : answered.call? = some call) :
    RoleService.matched? answered.role answered.request = some call := by
  unfold call? at hcall
  split at hcall
  · exact hcall
  · cases hcall

/-! ## §2 One Request -/

/-- A request whose call its handler answers adds this call to the trace, as a failure if it is answered
    with one.  The question for the version adds nothing, and neither does a request that no handler
    answers: they leave everything as it was. -/
theorem RoleService.respond_traces (service : RoleService) (request : Request) (occasion : Occasion)
    (machine : Machine) :
    let result := service.respond request occasion machine
    let answered : Answered := ⟨service.role, request, result.1.status⟩
    (∀ call, answered.call? = some call → call ≠ .protocolVersion →
      result.2.metrics.trace = machine.metrics.trace.record (service.labels call) occasion.elapsed
        (decide (result.1.status < 500))) ∧
    (answered.call? = some .protocolVersion ∨ answered.call? = none → result.2 = machine) := by
  intro result answered
  obtain ⟨ok, hcall, hstatus, hmetrics⟩ | ⟨hsame, hstatus⟩ :=
    service.respond_cases request occasion machine
  · -- the own call of the role, which is accounted
    have hown : answered.call? = some service.role.call := by
      have hanswered : answered.status ∈ [200, 500] := by
        change result.1.status ∈ [200, 500]
        rw [hstatus]
        cases ok <;> simp
      rw [Answered.call?, if_pos hanswered]
      exact matched?_of_isCall hcall
    rw [hown]
    refine ⟨fun call hsome _ => ?_, fun hother => ?_⟩
    · obtain rfl : service.role.call = call := Option.some.inj hsome
      have hok : decide (result.1.status < 500) = ok := by
        rw [hstatus]
        cases ok <;> rfl
      rw [hmetrics, RoleService.trace_accounted, hok]
      rfl
    · simp [call_ne_protocolVersion] at hother
  · refine ⟨fun call hsome hversion => ?_, fun _ => hsame⟩
    -- no other call than the version is answered without being accounted
    have hanswered := Answered.status_of_call? hsome
    obtain hrefused | ⟨hother, -⟩ := hstatus
    · have hnone : result.1.status ≠ 200 ∧ result.1.status ≠ 500 := by
        constructor <;> intro h <;> simp [result, refusals, h] at hrefused
      exact absurd hanswered (by simpa [answered] using hnone)
    · exact absurd (eq_protocolVersion_of_matched? (Answered.matched?_of_call? hsome) hother) hversion

/-! ## §3 The Sum of a Summary -/

namespace Session

/-- The answered calls that are traced: all but the questions for the version. -/
def tracedCalls (answers : List Answered) : Nat :=
  answers.countP fun answered => answered.call?.any (· ≠ .protocolVersion)

/-- The answered questions for the version. -/
def versionCalls (answers : List Answered) : Nat :=
  answers.countP fun answered => answered.call? = some .protocolVersion

/-- All answered calls. -/
def allCalls (answers : List Answered) : Nat :=
  answers.countP fun answered => answered.call?.isSome

/-- An answered call is traced, or it is a question for the version. -/
theorem allCalls_eq (answers : List Answered) :
    allCalls answers = tracedCalls answers + versionCalls answers := by
  induction answers with
  | nil => rfl
  | cons answered answers ih =>
    simp only [allCalls, tracedCalls, versionCalls, List.countP_cons] at ih ⊢
    rw [ih]
    -- the first answer counts for one of the two, or for none
    cases answered.call? with
    | none => simp
    | some call => cases call <;> simp <;> omega

/-- The traced calls are the own calls of the roles that were answered with success or failure. -/
theorem isOf_iff_traced (answered : Answered) :
    answered.isOf answered.role [200, 500] = answered.call?.any (· ≠ .protocolVersion) := by
  rw [Answered.isOf, Answered.call?, RoleService.matched?_eq]
  by_cases hstatus : answered.status ∈ [200, 500]
  · by_cases hown : RoleService.isCall answered.role answered.request
    · simp [hown, hstatus, RoleService.call_ne_protocolVersion]
    · split_ifs <;> simp [hown]
  · simp [hstatus]

theorem tracedCalls_eq (answers : List Answered) :
    tracedCalls answers =
      numberOf .planner [200, 500] answers + numberOf .worker [200, 500] answers := by
  induction answers with
  | nil => rfl
  | cons answered answers ih =>
    simp only [tracedCalls, numberOf, List.countP_cons] at ih ⊢
    rw [ih, ← isOf_iff_traced]
    -- the first answer is one of its own role, and not of the other one
    have hother : ∀ role, answered.role ≠ role → answered.isOf role [200, 500] = false := by
      intro role hrole
      simp [Answered.isOf, hrole]
    cases hrole : answered.role with
    | planner =>
      rw [hother .worker (by simp [hrole])]
      simp only [Bool.false_eq_true, if_false]
      omega
    | worker =>
      rw [hother .planner (by simp [hrole])]
      simp only [Bool.false_eq_true, if_false]
      omega

/-- The sum of the calls of all lines. -/
def sumOfCalls (summary : List MethodSummary) : UInt64 :=
  (summary.map (·.calls)).sum

/-- The lines of a balanced session add up to the traced calls. -/
theorem Balanced.sumOfCalls_summary {session : Session} (h : session.Balanced) :
    sumOfCalls session.machine.metrics.trace.summary = .ofNat (tracedCalls session.recent) := by
  obtain ⟨recorded, hrecorded, htells⟩ := h.traced
  have hlines : session.machine.metrics.trace.summary.map (·.calls) =
      (calledRoles session.recent).map fun role => .ofNat (numberOf role [200, 500] session.recent) := by
    have hfigures := congrArg (List.map fun figures => figures.2.1) (hrecorded.summary_eq htells)
    simpa only [List.map_map, Function.comp_def] using hfigures
  rw [sumOfCalls, hlines, tracedCalls_eq, UInt64.ofNat_add, calledRoles]
  -- a role that was not called has no line, and would add nothing
  by_cases hplanner : numberOf .planner [200, 500] session.recent = 0 <;>
    by_cases hworker : numberOf .worker [200, 500] session.recent = 0 <;>
      simp [hplanner, hworker]

/-! ## §4 Any Traffic -/

/-- **All calls but one kind are traced.**  Whatever is requested of the routers of a new environment:

    - a request whose call its handler answers adds just this call to the trace, under the role and the
      method of its route, and as a failure if its status is 500;
    - but for the question for the version, which changes nothing, as any request that no handler
      answers;
    - so the calls of a summary add up to the calls that were answered since the last reset, less the
      questions for the version among them.  They add up to all calls just when there was no such
      question, as long as the sum fits into its 64 bits. -/
theorem calls_are_traced {identity : Identity} {config : Config} {now : Timestamp}
    {before machine : Machine} {environment : Environment} (hbefore : before.metrics.Unused)
    (hinit : Environment.init identity config now before = (machine, .ok environment))
    (traffic : List Traffic) :
    let session := (Session.start machine).serveAll environment traffic
    let sum := sumOfCalls session.machine.metrics.trace.summary
    (∀ (service : RoleService) request occasion present,
      let result := service.respond request occasion present
      let answered : Answered := ⟨service.role, request, result.1.status⟩
      (∀ call, answered.call? = some call → call ≠ .protocolVersion →
        result.2.metrics.trace = present.metrics.trace.record (service.labels call) occasion.elapsed
          (decide (result.1.status < 500))) ∧
      (answered.call? = some .protocolVersion ∨ answered.call? = none → result.2 = present)) ∧
    .ofNat (allCalls session.recent) = sum + .ofNat (versionCalls session.recent) ∧
    (allCalls session.recent < 2 ^ 64 →
      (sum.toNat = allCalls session.recent ↔ versionCalls session.recent = 0)) := by
  intro session sum
  obtain ⟨hcounted, htraced⟩ := Environment.unused_init hbefore hinit
  have hbalanced : session.Balanced :=
    Session.balanced_serveAll (.start hcounted htraced) environment traffic
  have hsum : sum = .ofNat (tracedCalls session.recent) := hbalanced.sumOfCalls_summary
  -- what one request adds, and then the sum, as a number of 64 bits and as a true one
  refine ⟨fun service request occasion present => service.respond_traces request occasion present, ?_,
    fun hfits => ?_⟩
  · rw [hsum, allCalls_eq, UInt64.ofNat_add]
  · have htraced : tracedCalls session.recent < 2 ^ 64 := by
      rw [allCalls_eq] at hfits
      omega
    rw [hsum, UInt64.toNat_ofNat_of_lt' htraced, allCalls_eq]
    omega

/-- The question for the version, which both roles answer. -/
def versionQuestion : Request := ⟨"GET", "/rpc/protocol_version", [], ""⟩

/-- The version is asked for, then the trace is reset, and then a task without a body fails and a request is
planned. -/
def versionTraffic : List Traffic :=
  let post (path body : String) : Request :=
    ⟨"POST", path, [("content-type", "application/json")], body⟩
  let occasion : Occasion := ⟨⟨"2026-01-01T00:00:00"⟩, 0, ⟨0, 0⟩, fun n => .ofNat n⟩
  [.request .planner versionQuestion occasion, .reset,
    .request .worker
      (post "/rpc/exec_task" "[\"00000000-0000-0000-0000-000000000000\", \" \"]") occasion,
    .request .planner (post "/rpc/plan_request" "[\"a; b\"]") occasion]

/-- After the reset there is no question for the version, and the trace tells of both calls. -/
theorem calls_are_traced_reset :
    let environment : Environment := ⟨⟨"recordserviced@node-1:12050"⟩, 0,
      some ⟨⟨.v4 .unspecified, 11050⟩, ⟨0, 1⟩⟩⟩
    let session := (Session.start newEnvironment.1).serveAll environment versionTraffic
    (Machine.fresh []).metrics.Unused ∧ newEnvironment = (newEnvironment.1, .ok environment) ∧
    versionCalls session.answers = 1 ∧ allCalls session.recent = 2 ∧
    (sumOfCalls session.machine.metrics.trace.summary).toNat = 2 := by
  intro environment session
  have hunused : (Machine.fresh []).metrics.Unused := ⟨fun _ => rfl, rfl⟩
  have hinit : newEnvironment = (newEnvironment.1, .ok environment) := newEnvironment_eq
  obtain ⟨hversions, hcalls, hnone⟩ : versionCalls session.answers = 1 ∧
      allCalls session.recent = 2 ∧ versionCalls session.recent = 0 := by
    decide +kernel
  obtain ⟨-, -, htotal⟩ := calls_are_traced hunused hinit versionTraffic
  have hsum := (htotal (by rw [hcalls]; decide)).2 hnone
  exact ⟨hunused, hinit, hversions, hcalls, hsum.trans hcalls⟩

/-- The planner answers the question for the version, and the trace tells of no call. -/
theorem version_is_untraced :
    let environment : Environment := ⟨⟨"recordserviced@node-1:12050"⟩, 0,
      some ⟨⟨.v4 .unspecified, 11050⟩, ⟨0, 1⟩⟩⟩
    let occasion : Occasion := ⟨⟨"2026-01-01T00:00:00"⟩, 0, ⟨0, 0⟩, fun n => .ofNat n⟩
    let session := (Session.start newEnvironment.1).serveAll environment
      [.request .planner versionQuestion occasion]
    newEnvironment = (newEnvironment.1, .ok environment) ∧
    session.answers.map (fun answered => (answered.status, answered.call?)) =
      [(200, some .protocolVersion)] ∧
    allCalls session.recent = 1 ∧ session.machine.metrics.trace.summary = [] := by
  intro environment occasion session
  have hanswered : session.answers.map (fun answered => (answered.status, answered.call?)) =
      [(200, some .protocolVersion)] ∧ allCalls session.recent = 1 ∧
      session.machine.metrics.trace.summary = [] := by
    decide +kernel
  exact ⟨newEnvironment_eq, hanswered⟩

end Session

end RoleDaemon
