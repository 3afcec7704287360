import RoleDaemon.Proofs.Environment.Pages
import RoleDaemon.Proofs.Json.Reading
import RoleDaemon.Proofs.Json.Writing
import RoleDaemon.Proofs.Service.Planning
import RoleDaemon.Proofs.Uuid

/-!
# Planned Tasks Are Accepted

Whatever the planner of a daemon plans, its worker accepts.  A task is cut out of a request, written into an
answer, sent back as part of a JSON text, read from it and looked at again; on no part of this way can it get
lost or become blank.

## Architecture

- `RoleService.respond_planned`: an answered request to plan
- `Hands`: a request that hands over a task; `Hands.readJson`: what the worker reads from it
- `RoleService.respond_hands`: the answer of the worker
- `Environment.isSome_counter?`: the calls are counted in every process that built its environment
- `counters_respondAll`: the counters while tasks are handed over, by induction on their number

Main statements:
- `planned_tasks_are_accepted`: what becomes of the tasks of a plan
-/

namespace RoleDaemon

open Http Json Metrics Text

/-! ## §1 Calls -/

namespace RoleService

/-- The call of a role goes to its handler. -/
theorem respond_of_isCall (service : RoleService) {request : Request}
    (hcall : isCall service.role request) (occasion : Occasion) (machine : Machine) :
    service.respond request occasion machine =
      service.answer service.role.call request occasion machine := by
  obtain ⟨hdispatch, -⟩ | ⟨hother, -⟩ := dispatch_cases service.role request
  · rw [respond, hdispatch]
    rfl
  · exact absurd (by simpa [isCall] using hcall) hother

/-- A request to plan that is answered with success is answered with a plan. -/
theorem respond_planned {execution : ExecutionService} {request : Request} {occasion : Occasion}
    {machine : Machine} (hcall : isCall .planner request)
    (hstatus : ((RoleService.mk .planner execution).respond request occasion machine).1.status = 200) :
    ∃ (planRequest : PlanRequest) (plan : PlanResult),
      (execution.plan planRequest occasion machine.metrics).1 = .ok plan ∧
      ((RoleService.mk .planner execution).respond request occasion machine).1 =
        .json 200 plan.toJson := by
  rw [respond_of_isCall ⟨.planner, execution⟩ hcall] at hstatus ⊢
  simp only [answer, Role.call] at hstatus ⊢
  cases hread : readJson PlanRequest.record default request with
  | error fault =>
    -- a refused body is not answered with success
    have hrefused := status_fault fault
    simp only [hread] at hstatus
    rw [hstatus] at hrefused
    exact absurd hrefused (by decide)
  | ok planRequest =>
    simp only [hread] at hstatus ⊢
    cases hplan : (execution.plan planRequest occasion machine.metrics).1 with
    | error cause =>
      -- and neither is a failure of the service
      rw [hplan, (finish_spec _ _ _ _ _).1] at hstatus
      cases hstatus
    | ok plan => exact ⟨planRequest, plan, hplan, rfl⟩

/-- A call that is answered with success is accounted as one. -/
theorem accounted_of_success (service : RoleService) {request : Request} {occasion : Occasion}
    {machine : Machine} (hcall : isCall service.role request)
    (hstatus : (service.respond request occasion machine).1.status = 200) :
    (service.respond request occasion machine).2.metrics =
      accounted service.role occasion.elapsed true machine.metrics := by
  obtain ⟨ok, -, hanswered, hmetrics⟩ | ⟨-, hrefused | ⟨hother, -⟩⟩ :=
    service.respond_cases request occasion machine
  · cases ok with
    | true => exact hmetrics
    | false =>
      rw [hstatus] at hanswered
      exact absurd hanswered (by decide)
  · rw [hstatus] at hrefused
    exact absurd hrefused (by decide)
  · exact absurd hcall hother

end RoleService

/-! ## §2 Handing Over -/

/-- A task as a client sends it to a worker. -/
def TaskRequest.toJson (task : TaskRequest) : Json :=
  .obj [("task_id", .str task.id.text), ("task", .str task.body)]

/-- The request hands a task over to a worker, as compact JSON that is not too long. -/
structure Hands (task : TaskRequest) (request : Request) : Prop where
  isCall : RoleService.isCall .worker request
  contentType : request.header? "content-type" = some "application/json"
  body : request.body = task.toJson.text
  fits : request.body.utf8ByteSize ≤ bodyLimit

namespace Hands

variable {task : TaskRequest} {request : Request}

/-- The member of a sent task by its name: what it does to the record that is read. -/
def effect (task : TaskRequest) (name : String) (read : TaskRequest) : TaskRequest :=
  if name = "task_id" then { read with id := task.id }
  else if name = "task" then { read with body := task.body }
  else read

/-- The text of a task is read as the task. -/
theorem document_text (task : TaskRequest) :
    TaskRequest.record.document .blank task.toJson.text = .ok task := by
  let members : List (String × Json) :=
    [("task_id", .str task.id.text), ("task", .str task.body)]
  have haccepts : ∀ m ∈ members.map fun m => (m.1, m.2.chars),
      TaskRequest.record.Accepts (effect task) m := by
    intro m hm
    obtain rfl | rfl : m = _ ∨ m = _ := by simpa [members] using hm
    · -- the identifier is read back from its written form
      apply Record.Accepts.field
      · rfl
      · apply Reader.takes_parsed _ (writesString_chars _)
        simp only [Uuid.parse_text]
        rfl
      · exact fun _ => rfl
    · apply Record.Accepts.field
      · rfl
      · exact Reader.takes_string _ (writesString_chars _)
      · exact fun _ => rfl
  have hnames : (members.map fun m => (m.1, m.2.chars)).map Prod.fst = ["task_id", "task"] := rfl
  have honce : (TaskRequest.record.given (members.map fun m => (m.1, m.2.chars))).Nodup := by
    rw [Record.given, hnames]
    decide
  have hrequired : ∀ f ∈ TaskRequest.record.fields, f.required →
      f.name ∈ (members.map fun m => (m.1, m.2.chars)).map Prod.fst := by
    rw [hnames]
    decide
  -- each member puts its value into the blank record, which leaves nothing of the blank
  exact Record.document_object (isObject_chars members) (isElement_self _) haccepts honce hrequired
    .blank

/-- The worker reads the task that is handed over. -/
theorem readJson (h : Hands task request) :
    Http.readJson TaskRequest.record .blank request = .ok task := by
  have hjson : ((request.header? "content-type").map isJsonContent).getD false = true := by
    rw [h.contentType]
    decide
  rw [Http.readJson, if_pos hjson, if_neg (Nat.not_lt.2 h.fits), h.body, document_text]

/-- A task that is not blank is accepted by the worker it is handed over to, under its identifier. -/
theorem accepted (h : Hands task request) (hfilled : IsFilled task.body)
    (execution : ExecutionService) (occasion : Occasion) (machine : Machine) :
    ∃ result : TaskResult,
      ((RoleService.mk .worker execution).respond request occasion machine).1 =
        .json 200 result.toJson ∧
      result.id = task.id ∧ result.executedBy = execution.id := by
  refine ⟨⟨occasion.drawn 0, task.id, execution.id, occasion.now⟩, ?_, rfl, rfl⟩
  rw [RoleService.respond_of_isCall ⟨.worker, execution⟩ h.isCall]
  unfold IsFilled at hfilled
  simp only [RoleService.answer, Role.call, h.readJson, ExecutionService.accept, hfilled]
  rfl

end Hands

/-! ## §3 Counting -/

/-- In a process that built its environment the calls of both roles are counted. -/
theorem Environment.isSome_counter? {identity : Identity} {config : Config} {now : Timestamp}
    {before built : Machine} {environment : Environment}
    (hinit : init identity config now before = (built, .ok environment))
    (later : List ProcessEvent) (role : Role) :
    ((ProcessEvent.runAll built later).metrics.counter? role.counter).isSome := by
  have hbuilt : (built.metrics.find? .counter role.counter).isSome := by
    obtain ⟨enrolled, henroll, hmetrics⟩ := enroll_of_init hinit
    have henrolled : (enrolled.find? .counter role.counter).isSome := by
      -- whether or not it was there before, the counter is one of the enrolments
      obtain ⟨family, hown⟩ : ∃ family, ((enrolments identity config now).map (·.family)).find?
          (Family.isNamed .counter role.counter) = some family := by
        cases role <;> exact ⟨_, rfl⟩
      rw [Registry.find?_enroll henroll (by decide), hown, Option.isSome_or, Option.isSome_some,
        Bool.or_true]
    obtain rfl | hincrement := hmetrics
    · exact henrolled
    · -- the task of the pages was counted, which removes nothing
      rw [hincrement]
      apply Registry.isSome_find?_of_prefix _ henrolled
      exact (Action.increment Machine.tasksCreated 1).prefix_identity_run enrolled
  rw [Registry.isSome_counter?]
  -- what is registered stays registered, whatever happens later
  apply ProcessEvent.runAll_keep (P := fun registry => (registry.find? .counter role.counter).isSome)
  · intro book action h
    exact Registry.isSome_find?_of_prefix (book.prefix_identity_act action) h
  · exact fun _ _ h => h
  · exact hbuilt

/-- The state after some requests to a role, one after the other. -/
def RoleService.respondAll (service : RoleService) (sent : List (Request × Occasion))
    (machine : Machine) : Machine :=
  sent.foldl (fun machine message => (service.respond message.1 message.2 machine).2) machine

/-- One accepted task is counted once, and no plan. -/
theorem Hands.counters {task : TaskRequest} {request : Request} (h : Hands task request)
    (hfilled : IsFilled task.body) (execution : ExecutionService) (occasion : Occasion)
    (machine : Machine) :
    let after := ((RoleService.mk .worker execution).respond request occasion machine).2
    after.metrics.counter? ExecutionService.acceptedTasks =
      (machine.metrics.counter? ExecutionService.acceptedTasks).map (· + 1) ∧
    after.metrics.counter? ExecutionService.plannedRequests =
      machine.metrics.counter? ExecutionService.plannedRequests := by
  intro after
  obtain ⟨result, hanswer, -⟩ := h.accepted hfilled execution occasion machine
  have hmetrics : after.metrics = _ :=
    RoleService.accounted_of_success ⟨.worker, execution⟩ h.isCall (by rw [hanswer]; rfl)
  rw [hmetrics]
  exact ⟨RoleService.counter?_accounted .worker .worker _ _ _,
    RoleService.counter?_accounted .worker .planner _ _ _⟩

/-- Any number of accepted tasks are counted by their number. -/
theorem counters_respondAll (execution : ExecutionService) {sent : List (Request × Occasion)}
    (hsent : ∀ message ∈ sent, ∃ task, Hands task message.1 ∧ IsFilled task.body)
    (machine : Machine) :
    let after := (RoleService.mk .worker execution).respondAll sent machine
    after.metrics.counter? ExecutionService.acceptedTasks =
      (machine.metrics.counter? ExecutionService.acceptedTasks).map (· + .ofNat sent.length) ∧
    after.metrics.counter? ExecutionService.plannedRequests =
      machine.metrics.counter? ExecutionService.plannedRequests := by
  induction sent generalizing machine with
  | nil => simp [RoleService.respondAll]
  | cons message rest ih =>
    -- the first task is counted for itself, and the others on top of it
    obtain ⟨task, hands, hfilled⟩ := hsent message (by simp)
    obtain ⟨haccepted, hplanned⟩ := hands.counters hfilled execution message.2 machine
    obtain ⟨hothers, hplans⟩ := ih (fun m hm => hsent m (List.mem_cons_of_mem _ hm))
      ((RoleService.mk .worker execution).respond message.1 message.2 machine).2
    refine ⟨hothers.trans ?_, hplans.trans hplanned⟩
    have hsum : ∀ count : UInt64, count + 1 + .ofNat rest.length = count + .ofNat (rest.length + 1) := by
      intro count
      rw [UInt64.ofNat_add, UInt64.add_assoc, UInt64.add_comm 1]
      rfl
    rw [haccepted, Option.map_map, List.length_cons]
    exact congrArg (Option.map · _) (funext hsum)

/-! ## §4 Plans and Their Tasks -/

/-- **Whatever is planned is accepted.**  In a process in which anything has happened before and after its
    environment was built, a request to plan with any body that is answered with success is answered with
    a plan and counted.

    - Each task of the plan is accepted by the worker, whoever hands it over, under any identifier and at
      any time: the answer is a success, with the same identifier, and names the daemon that made the
      plan.
    - When tasks of the plan are handed over one after the other, all of them or some, in any order, the
      accepted tasks grow by their number, and the planned requests stay as the plan left them. -/
theorem planned_tasks_are_accepted (taken : List Net.Endpoint) (earlier : List ProcessEvent)
    {identity : Identity} {config : Config} {now : Timestamp} {built : Machine}
    {environment : Environment}
    (hinit : Environment.init identity config now (ProcessEvent.runAll (.fresh taken) earlier) =
      (built, .ok environment))
    (later : List ProcessEvent) {request : Request} {occasion : Occasion} :
    let before := ProcessEvent.runAll built later
    let planner : RoleService := ⟨.planner, environment.service⟩
    let worker : RoleService := ⟨.worker, environment.service⟩
    let answer := planner.respond request occasion before
    request.method = "POST" → request.path = "/rpc/plan_request" → answer.1.status = 200 →
    ∃ (plan : PlanResult) (planned accepted : UInt64),
      answer.1 = .json 200 plan.toJson ∧
      before.metrics.counter? ExecutionService.plannedRequests = some planned ∧
      before.metrics.counter? ExecutionService.acceptedTasks = some accepted ∧
      (∀ task ∈ plan.tasks, ∀ id message occasion present, Hands ⟨id, task.body⟩ message →
        ∃ result : TaskResult,
          (worker.respond message occasion present).1 = .json 200 result.toJson ∧
          result.id = id ∧ result.executedBy = plan.plannedBy) ∧
      (∀ sent : List (Request × Occasion),
        (∀ message ∈ sent, ∃ task ∈ plan.tasks, ∃ id, Hands ⟨id, task.body⟩ message.1) →
        let after := worker.respondAll sent answer.2
        after.metrics.counter? ExecutionService.plannedRequests = some (planned + 1) ∧
        after.metrics.counter? ExecutionService.acceptedTasks =
          some (accepted + .ofNat sent.length)) := by
  intro before planner worker answer hmethod hpath hstatus
  have hcall : RoleService.isCall .planner request := by
    simp [RoleService.isCall, hmethod, hpath, Role.callPath]
  obtain ⟨planRequest, plan, hplan, hanswer⟩ := RoleService.respond_planned hcall hstatus
  obtain ⟨hplannedBy, hbodies⟩ := ExecutionService.plan_ok hplan
  have hfilled : ∀ task ∈ plan.tasks, IsFilled task.body := by
    intro task htask
    have hmem : task.body ∈ planRequest.statements := hbodies ▸ List.mem_map_of_mem htask
    exact (PlanRequest.isStatement_of_mem hmem).isFilled
  obtain ⟨planned, hplanned⟩ :=
    Option.isSome_iff_exists.1 (Environment.isSome_counter? hinit later .planner)
  obtain ⟨accepted, haccepted⟩ :=
    Option.isSome_iff_exists.1 (Environment.isSome_counter? hinit later .worker)
  refine ⟨plan, planned, accepted, hanswer, hplanned, haccepted, ?_, ?_⟩
  · intro task htask id message occasion present hands
    rw [hplannedBy]
    exact hands.accepted (hfilled task htask) environment.service occasion present
  · intro sent hsent after
    have hmetrics : answer.2.metrics = _ := planner.accounted_of_success hcall hstatus
    have hhanded : ∀ message ∈ sent, ∃ task, Hands task message.1 ∧ IsFilled task.body := by
      intro message hmem
      obtain ⟨task, htask, id, hands⟩ := hsent message hmem
      exact ⟨_, hands, hfilled task htask⟩
    obtain ⟨htasks, hplans⟩ := counters_respondAll environment.service hhanded answer.2
    -- the plan itself is counted once, and accepts nothing
    have hcounted : answer.2.metrics.counter? ExecutionService.plannedRequests = some (planned + 1) := by
      rw [hmetrics]
      refine (RoleService.counter?_accounted .planner .planner _ true _).trans ?_
      rw [if_pos ⟨rfl, rfl⟩, hplanned]
      rfl
    have hkept : answer.2.metrics.counter? ExecutionService.acceptedTasks = some accepted := by
      rw [hmetrics]
      refine (RoleService.counter?_accounted .planner .worker _ true _).trans ?_
      rw [if_neg (by decide), haccepted]
    rw [hcounted] at hplans
    rw [hkept] at htasks
    exact ⟨hplans, htasks⟩

/-- The written plan tells the bodies of its tasks. -/
theorem PlanResult.exists_task_of_toJson {plan other : PlanResult} (h : plan.toJson = other.toJson)
    {task : TaskSpec} (hmem : task ∈ other.tasks) : ∃ own ∈ plan.tasks, own.body = task.body := by
  have hparts : plan.id.text = other.id.text ∧ plan.plannedBy.text = other.plannedBy.text ∧
      plan.tasks.map TaskSpec.toJson = other.tasks.map TaskSpec.toJson := by
    simpa [PlanResult.toJson] using h
  obtain ⟨-, -, htasks⟩ := hparts
  have hwritten : task.toJson ∈ plan.tasks.map TaskSpec.toJson :=
    htasks ▸ List.mem_map_of_mem hmem
  obtain ⟨own, hown, hsame⟩ := List.mem_map.1 hwritten
  have htold : own.id.text = task.id.text ∧ own.body = task.body ∧
      own.hosts.map (fun host => Json.str host.text) = task.hosts.map fun host => .str host.text := by
    simpa [TaskSpec.toJson] using hsame
  exact ⟨own, hown, htold.2.1⟩

/-- A request with two statements, of which the second one has quotes and a letter beyond ASCII. -/
def quotedRequest : Request :=
  ⟨"POST", "/rpc/plan_request", [("content-type", "application/json")],
    "[\" a ;; say \\\"hi\\\" \\u00e9 \"]"⟩

/-- The second task of the plan, as it is handed over. -/
def quotedTask : Request :=
  ⟨"POST", "/rpc/exec_task", [("content-type", "application/json")],
    (TaskRequest.toJson ⟨.ofNat 7, "say \"hi\" é"⟩).text⟩

/-- The request is planned after a reset of the trace, and its second task is accepted twice. -/
theorem planned_tasks_are_accepted_quoted :
    let environment : Environment := ⟨⟨"recordserviced@node-1:12050"⟩, 0,
      some ⟨⟨.v4 .unspecified, 11050⟩, ⟨0, 1⟩⟩⟩
    let occasion : Occasion := ⟨⟨"2026-01-01T00:00:00"⟩, 0, ⟨0, 0⟩, fun n => .ofNat n⟩
    let planner : RoleService := ⟨.planner, environment.service⟩
    let worker : RoleService := ⟨.worker, environment.service⟩
    let before := ProcessEvent.runAll Session.newEnvironment.1 [.trace .reset]
    let answer := planner.respond quotedRequest occasion before
    let after := worker.respondAll [(quotedTask, occasion), (quotedTask, occasion)] answer.2
    Session.newEnvironment = (Session.newEnvironment.1, .ok environment) ∧ answer.1.status = 200 ∧
    (∃ result : TaskResult,
      (worker.respond quotedTask occasion answer.2).1 = .json 200 result.toJson ∧
      result.id = .ofNat 7) ∧
    after.metrics.counter? ExecutionService.plannedRequests = some 1 ∧
    after.metrics.counter? ExecutionService.acceptedTasks = some 2 := by
  intro environment occasion planner worker before answer after
  have hinit : Session.newEnvironment = (Session.newEnvironment.1, .ok environment) :=
    Session.newEnvironment_eq
  have hwritten : answer.1 = .json 200 (PlanResult.toJson ⟨.ofNat 2, environment.identity,
    [⟨.ofNat 0, "a", [environment.identity]⟩,
      ⟨.ofNat 1, "say \"hi\" é", [environment.identity]⟩]⟩) := rfl
  have hstatus : answer.1.status = 200 := by
    rw [hwritten]
    rfl
  have hpath : quotedRequest.path = "/rpc/plan_request" := by decide
  have hreset : ∀ (machine : Machine) (name : String),
      (ProcessEvent.runAll machine [.trace .reset]).metrics.counter? name =
        machine.metrics.counter? name := fun _ _ => rfl
  have hunused : ∀ role : Role, before.metrics.counter? role.counter = some 0 := fun role =>
    (hreset _ _).trans ((Environment.unused_init ⟨fun _ => rfl, rfl⟩ hinit).1 role)
  obtain ⟨plan, planned, accepted, hanswer, hplanned, haccepted, htasks, hcounted⟩ :=
    planned_tasks_are_accepted [] [] hinit [.trace .reset] rfl hpath hstatus
  have hnoPlan : planned = 0 := Option.some.inj (hplanned.symm.trans (hunused .planner))
  have hnoTask : accepted = 0 := Option.some.inj (haccepted.symm.trans (hunused .worker))
  rw [hnoPlan, hnoTask] at hcounted
  -- the plan is the one that was written, so it has the second task
  have hplan := Body.json.inj (congrArg Response.body (hanswer.symm.trans hwritten))
  obtain ⟨task, htask, hbody⟩ :=
    PlanResult.exists_task_of_toJson hplan (List.mem_cons_of_mem _ (List.mem_singleton_self _))
  have hands : Hands ⟨.ofNat 7, task.body⟩ quotedTask := by
    rw [hbody]
    exact ⟨by decide, by decide, rfl, by decide +kernel⟩
  obtain ⟨result, hresult, hid, -⟩ := htasks task htask (.ofNat 7) quotedTask occasion answer.2 hands
  have hsent : ∀ message ∈ [(quotedTask, occasion), (quotedTask, occasion)],
      ∃ task ∈ plan.tasks, ∃ id, Hands ⟨id, task.body⟩ message.1 := by
    intro message hmem
    obtain rfl : message = (quotedTask, occasion) := by simpa using hmem
    exact ⟨task, htask, _, hands⟩
  obtain ⟨hplans, haccepts⟩ := hcounted _ hsent
  exact ⟨hinit, hstatus, ⟨result, hresult, hid⟩, hplans, haccepts⟩

end RoleDaemon
