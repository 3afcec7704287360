import Mathlib.Data.List.Sort
import RoleDaemon.Proofs.Metrics.History
import RoleDaemon.Proofs.Rpc.Trace
import RoleDaemon.Proofs.Service.Calls

/-!
# The Accounts of the Calls

The calls of a role are kept in three places: the answers that the clients got, a counter of the handled
calls, and the trace, which can be reset.  Whatever is requested of the routers of a new environment,
the three stay in step.

## Architecture

- `Environment.unused_init`: a new environment has counted and traced nothing
- `Session`: a process with the answers that were given, `Session.serve`: one more request or reset
- `Session.Recorded`: the recorded calls are those that were answered with success or failure
- `Session.Balanced.serve`: one piece of traffic keeps counters and trace in step with the answers
- `Session.balanced_serveAll`: hence any traffic does

Main statements:
- `Session.accounts_follow_answers`: counters and summary by the answers, and what refused requests leave
-/

namespace RoleDaemon

open Http Metrics Rpc

/-! ## §1 New Environments -/

/-- Accounting a call changes the counter of its role, and no other. -/
theorem RoleService.counter?_accounted (role other : Role) (elapsed : Duration) (ok : Bool)
    (metrics : Registry) :
    (RoleService.accounted role elapsed ok metrics).counter? other.counter =
      if ok ∧ other = role then (metrics.counter? other.counter).map (· + 1)
      else metrics.counter? other.counter := by
  have hiff : other.counter = role.counter ↔ other = role :=
    ⟨Role.counter_injective, fun h => congrArg Role.counter h⟩
  cases ok with
  | false =>
    rw [if_neg (by simp)]
    rfl
  | true =>
    change (metrics.increment role.counter 1).counter? other.counter = _
    simp only [Registry.counter?_increment, hiff, true_and]

@[simp] theorem RoleService.trace_accounted (role : Role) (elapsed : Duration) (ok : Bool)
    (metrics : Registry) :
    (RoleService.accounted role elapsed ok metrics).trace =
      metrics.trace.record role.labels elapsed ok := by
  cases ok <;> rfl

/-- Nothing was counted for the roles, and nothing was traced. -/
structure Metrics.Registry.Unused (registry : Registry) : Prop where
  counted : ∀ role : Role, (registry.counter? role.counter).getD 0 = 0
  traced : registry.trace = .empty

namespace Environment

/-- Building an environment enrols its metrics, and may count a task. -/
theorem enroll_of_init {identity : Identity} {config : Config} {now : Timestamp}
    {before machine : Machine} {environment : Environment}
    (hinit : init identity config now before = (machine, .ok environment)) :
    ∃ enrolled,
      Registry.enroll (enrolments identity config now) before.metrics = (enrolled, .ok ()) ∧
      (machine.metrics = enrolled ∨
        machine.metrics = enrolled.increment Machine.tasksCreated 1) := by
  have hmetrics := Operation.metrics_init identity config now before
  rw [hinit] at hmetrics
  rcases henroll : Registry.enroll (enrolments identity config now) before.metrics with
    ⟨enrolled, cause | _⟩
  · simp [init, Machine.enroll, henroll] at hinit
  · refine ⟨enrolled, rfl, ?_⟩
    rw [henroll] at hmetrics
    split at hmetrics
    · exact .inr hmetrics
    · exact .inl hmetrics

/-- A new environment has counted nothing and traced nothing. -/
theorem unused_init {identity : Identity} {config : Config} {now : Timestamp}
    {before machine : Machine} {environment : Environment} (hbefore : before.metrics.Unused)
    (hinit : init identity config now before = (machine, .ok environment)) :
    (∀ role : Role, machine.metrics.counter? role.counter = some 0) ∧
      machine.metrics.trace = .empty := by
  obtain ⟨enrolled, henroll, hmetrics⟩ := enroll_of_init hinit
  have htrace : enrolled.trace = .empty := by
    have hkept := Registry.trace_enroll (enrolments identity config now) before.metrics
    rw [henroll] at hkept
    exact hkept.trans hbefore.traced
  have hfound : ∀ role : Role, enrolled.counter? role.counter = some 0 := by
    intro role
    have hown : ∃ help, ((enrolments identity config now).map (·.family)).find?
        (Family.isNamed .counter role.counter) = some (.counter role.counter help) := by
      cases role <;> exact ⟨_, rfl⟩
    obtain ⟨help, hown⟩ := hown
    have hcount := hbefore.counted role
    rw [Registry.counter?] at hcount
    rw [Registry.counter?, Registry.find?_enroll henroll (by decide), hown]
    cases hold : before.metrics.find? .counter role.counter with
    | none => rfl
    | some family =>
      -- the counter was registered before, and still is what it was
      have hkind := (Registry.isNamed_iff.1 (Registry.isNamed_of_find? hold)).1
      simp only [hold, Option.bind_some, Option.some_or] at hcount ⊢
      cases hcontent : family.content <;> simp_all [Content.kind?]
  -- the task of the pages is counted elsewhere
  obtain rfl | hincrement := hmetrics
  · exact ⟨hfound, htrace⟩
  · rw [hincrement]
    refine ⟨fun role => ?_, htrace⟩
    have hother : role.counter ≠ Machine.tasksCreated := by
      cases role <;> decide
    rw [Registry.counter?_increment, if_neg hother]
    exact hfound role

end Environment

/-! ## §2 Traffic -/

/-- What goes on at the routers of an environment, and at the trace of its calls. -/
inductive Traffic where
  | request (role : Role) (request : Request) (occasion : Occasion)
  | summary
  | reset

/-- A request to a role, with the status of its answer. -/
structure Answered where
  role : Role
  request : Request
  status : Nat

/-- The answer is one to the call of the role, with one of the statuses. -/
def Answered.isOf (role : Role) (statuses : List Nat) (answered : Answered) : Bool :=
  answered.role = role && RoleService.isCall role answered.request &&
    statuses.contains answered.status

theorem Answered.isOf_iff {answered : Answered}
    (hcall : RoleService.isCall answered.role answered.request) {role : Role}
    {statuses : List Nat} :
    answered.isOf role statuses ↔ answered.role = role ∧ answered.status ∈ statuses := by
  simp only [isOf, Bool.and_eq_true, decide_eq_true_eq, List.contains_iff_mem, and_assoc]
  constructor
  · rintro ⟨rfl, -, hstatus⟩
    exact ⟨rfl, hstatus⟩
  · rintro ⟨rfl, hstatus⟩
    exact ⟨rfl, hcall, hstatus⟩

theorem Answered.isOf_mono {answered : Answered} {role : Role} {statuses statuses' : List Nat}
    (hsub : statuses ⊆ statuses') (h : answered.isOf role statuses) :
    answered.isOf role statuses' := by
  simp only [isOf, Bool.and_eq_true, List.contains_iff_mem] at h ⊢
  exact ⟨h.1, hsub h.2⟩

/-- A process with the answers that were given at its routers. -/
structure Session where
  machine : Machine
  /-- All answers, the first one first. -/
  answers : List Answered
  /-- The answers since the last reset of the trace. -/
  recent : List Answered

namespace Session

/-- Before any traffic. -/
def start (machine : Machine) : Session := ⟨machine, [], []⟩

/-- The session after one more answer. -/
def answered (session : Session) (machine : Machine) (answered : Answered) : Session :=
  ⟨machine, session.answers ++ [answered], session.recent ++ [answered]⟩

def serve (environment : Environment) (session : Session) : Traffic → Session
  | .request role request occasion =>
    let (response, machine) :=
      (RoleService.mk role environment.service).respond request occasion session.machine
    session.answered machine ⟨role, request, response.status⟩
  | .summary =>
    { session with
      machine := { session.machine with
        metrics := session.machine.metrics.modifyTrace Trace.touched } }
  | .reset =>
    { session with
      machine := { session.machine with
        metrics := session.machine.metrics.modifyTrace Trace.reset }
      recent := [] }

theorem serve_request (environment : Environment) (session : Session) (role : Role)
    (request : Request) (occasion : Occasion) :
    session.serve environment (.request role request occasion) =
      let result :=
        (RoleService.mk role environment.service).respond request occasion session.machine
      session.answered result.2 ⟨role, request, result.1.status⟩ := rfl

def serveAll (environment : Environment) (traffic : List Traffic) (session : Session) : Session :=
  traffic.foldl (serve environment) session

/-- The number of answers to the call of a role with one of the statuses. -/
def numberOf (role : Role) (statuses : List Nat) (answers : List Answered) : Nat :=
  answers.countP (Answered.isOf role statuses)

theorem numberOf_append (role : Role) (statuses : List Nat) (answers : List Answered)
    (answered : Answered) :
    numberOf role statuses (answers ++ [answered]) =
      numberOf role statuses answers + if answered.isOf role statuses then 1 else 0 := by
  simp [numberOf, List.countP_append, List.countP_singleton]

/-! ## §3 Recorded Calls -/

/-- The recorded calls are those that were answered with success or failure. -/
structure Recorded (recorded : List Trace.Record) (answers : List Answered) : Prop where
  own : ∀ call ∈ recorded, ∃ role : Role, call.labels = role.labels
  calls : ∀ role : Role,
    (Trace.sharing role.labels recorded).length = numberOf role [200, 500] answers
  errors : ∀ role : Role,
    (Trace.failed (Trace.sharing role.labels recorded)).length = numberOf role [500] answers

namespace Recorded

variable {recorded : List Trace.Record} {answers : List Answered} {answered : Answered}

theorem empty : Recorded [] [] where
  own := by simp
  calls _ := rfl
  errors _ := rfl

/-- An answer that is not accounted is not recorded. -/
theorem skip (h : Recorded recorded answers)
    (hother : ∀ role, ¬ answered.isOf role [200, 500]) :
    Recorded recorded (answers ++ [answered]) where
  own := h.own
  calls role := by
    rw [numberOf_append, if_neg (hother role), h.calls role]
    rfl
  errors role := by
    have hfailed : ¬ answered.isOf role [500] := fun hfailed =>
      hother role (Answered.isOf_mono (by simp) hfailed)
    rw [numberOf_append, if_neg hfailed, h.errors role]
    rfl

/-- An accounted call is recorded once, under the labels of its role. -/
theorem call (h : Recorded recorded answers) (elapsed : Duration) {ok : Bool}
    (hcall : RoleService.isCall answered.role answered.request)
    (hstatus : answered.status = if ok then 200 else 500) :
    Recorded (recorded ++ [⟨answered.role.labels, elapsed, ok⟩]) (answers ++ [answered]) where
  own := by
    intro call hmem
    rcases List.mem_append.1 hmem with hmem | hmem
    · exact h.own call hmem
    · obtain rfl := List.mem_singleton.1 hmem
      exact ⟨answered.role, rfl⟩
  calls role := by
    rw [Trace.sharing_append, numberOf_append, ← h.calls role]
    by_cases hrole : answered.role = role
    · have hof : answered.isOf role [200, 500] := by
        rw [Answered.isOf_iff hcall, hstatus]
        cases ok <;> simp [hrole]
      rw [if_pos (by rw [hrole]), if_pos hof, List.length_append]
      rfl
    · have hof : ¬ answered.isOf role [200, 500] := fun hof =>
        hrole ((Answered.isOf_iff hcall).1 hof).1
      rw [if_neg fun hkey => hrole (Role.key_labels_injective hkey).symm, if_neg hof]
      rfl
  errors role := by
    rw [Trace.sharing_append, numberOf_append, ← h.errors role]
    by_cases hrole : answered.role = role
    · rw [if_pos (by rw [hrole]), Trace.failed_append]
      have hof : answered.isOf role [500] ↔ ok = false := by
        rw [Answered.isOf_iff hcall, hstatus]
        cases ok <;> simp [hrole]
      cases ok <;> simp [hof]
    · have hof : ¬ answered.isOf role [500] := fun hof =>
        hrole ((Answered.isOf_iff hcall).1 hof).1
      rw [if_neg fun hkey => hrole (Role.key_labels_injective hkey).symm, if_neg hof]
      rfl

end Recorded

/-! ## §4 Balanced Sessions -/

/-- The counters and the trace tell of the answers. -/
structure Balanced (session : Session) : Prop where
  counted : ∀ role : Role, session.machine.metrics.counter? role.counter =
    some (.ofNat (numberOf role [200] session.answers))
  traced : ∃ recorded, Recorded recorded session.recent ∧
    Trace.Tells recorded session.machine.metrics.trace

namespace Balanced

variable {session : Session}

theorem start {machine : Machine}
    (hcounted : ∀ role : Role, machine.metrics.counter? role.counter = some 0)
    (htraced : machine.metrics.trace = .empty) : Balanced (.start machine) where
  counted := hcounted
  traced := ⟨[], .empty, htraced ▸ .empty⟩

/-- A call that reached the service. -/
theorem accounted (h : Balanced session) {machine : Machine} {answered : Answered} {ok : Bool}
    (elapsed : Duration) (hcall : RoleService.isCall answered.role answered.request)
    (hstatus : answered.status = if ok then 200 else 500)
    (hmetrics : machine.metrics =
      RoleService.accounted answered.role elapsed ok session.machine.metrics) :
    Balanced (session.answered machine answered) := by
  obtain ⟨recorded, hrecorded, htells⟩ := h.traced
  refine ⟨fun role => ?_, recorded ++ [⟨answered.role.labels, elapsed, ok⟩],
    hrecorded.call elapsed hcall hstatus, ?_⟩
  · change machine.metrics.counter? role.counter =
      some (.ofNat (numberOf role [200] (session.answers ++ [answered])))
    rw [hmetrics, RoleService.counter?_accounted, h.counted role, numberOf_append, UInt64.ofNat_add]
    have hof : answered.isOf role [200] ↔ ok ∧ role = answered.role := by
      rw [Answered.isOf_iff hcall, hstatus]
      cases ok <;> simp [eq_comm (a := role)]
    by_cases hhandled : ok ∧ role = answered.role
    · rw [if_pos hhandled, if_pos (hof.2 hhandled)]
      rfl
    · rw [if_neg hhandled, if_neg fun h => hhandled (hof.1 h)]
      simp
  · change Trace.Tells _ machine.metrics.trace
    rw [hmetrics, RoleService.trace_accounted]
    exact htells.record ⟨answered.role.labels, elapsed, ok⟩

/-- A request that did not reach the service. -/
theorem refused (h : Balanced session) {answered : Answered}
    (hstatus : answered.status ∈ RoleService.refusals ∨
      ¬ RoleService.isCall answered.role answered.request ∧ answered.status = 200) :
    Balanced (session.answered session.machine answered) := by
  obtain ⟨recorded, hrecorded, htells⟩ := h.traced
  -- neither a refusal nor an answer to something else is an answer to a call that was accounted
  have hother : ∀ role, ¬ answered.isOf role [200, 500] := by
    intro role hof
    simp only [Answered.isOf, Bool.and_eq_true, decide_eq_true_eq] at hof
    obtain ⟨⟨rfl, hcall⟩, hanswer⟩ := hof
    obtain hrefused | ⟨hnoCall, -⟩ := hstatus
    · have haccounted : answered.status = 200 ∨ answered.status = 500 := by simpa using hanswer
      obtain h200 | h500 := haccounted
      · simp [RoleService.refusals, h200] at hrefused
      · simp [RoleService.refusals, h500] at hrefused
    · exact hnoCall hcall
  refine ⟨fun role => ?_, recorded, hrecorded.skip hother, htells⟩
  have hhandled : ¬ answered.isOf role [200] := fun hhandled =>
    hother role (Answered.isOf_mono (by simp) hhandled)
  change session.machine.metrics.counter? role.counter =
    some (.ofNat (numberOf role [200] (session.answers ++ [answered])))
  rw [numberOf_append, if_neg hhandled]
  exact h.counted role

/-- One piece of traffic keeps the balance. -/
theorem serve (h : Balanced session) (environment : Environment) (traffic : Traffic) :
    Balanced (session.serve environment traffic) := by
  cases traffic with
  | summary =>
    obtain ⟨recorded, hrecorded, htells⟩ := h.traced
    exact ⟨h.counted, recorded, hrecorded, htells.touched⟩
  | reset => exact ⟨h.counted, [], .empty, .empty⟩
  | request role request occasion =>
    simp only [Session.serve_request]
    obtain ⟨ok, hcall, hstatus, hmetrics⟩ | ⟨hsame, hstatus⟩ := RoleService.respond_cases
      ⟨role, environment.service⟩ request occasion session.machine
    · exact h.accounted occasion.elapsed hcall hstatus hmetrics
    · rw [hsame]
      exact h.refused hstatus

end Balanced

/-- Any traffic keeps the balance. -/
theorem balanced_serveAll {session : Session} (h : session.Balanced)
    (environment : Environment) (traffic : List Traffic) :
    (session.serveAll environment traffic).Balanced := by
  induction traffic generalizing session with
  | nil => exact h
  | cons first rest ih => exact ih (h.serve environment first)

/-! ## §5 The Accounts -/

/-- The roles that were called, in the order of the summary. -/
def calledRoles (answers : List Answered) : List Role :=
  [Role.planner, .worker].filter fun role => numberOf role [200, 500] answers ≠ 0

/-- Among the recorded calls are those of the roles that were called, and no others. -/
theorem Recorded.exists_call_iff {recorded : List Trace.Record} {answers : List Answered}
    (h : Recorded recorded answers) (labels : CallLabels) :
    (∃ call ∈ recorded, call.labels = labels) ↔ labels ∈ (calledRoles answers).map Role.labels := by
  -- a role was called just when some recorded call has the text of its labels
  have hcalled : ∀ role, role ∈ calledRoles answers ↔ Trace.sharing role.labels recorded ≠ [] := by
    intro role
    rw [← List.length_pos_iff, h.calls role, Nat.pos_iff_ne_zero, calledRoles, List.mem_filter]
    cases role <;> simp
  constructor
  · rintro ⟨call, hcall, rfl⟩
    obtain ⟨role, hlabels⟩ := h.own call hcall
    refine List.mem_map.2 ⟨role, (hcalled role).2 ?_, hlabels.symm⟩
    exact List.ne_nil_of_mem (List.mem_filter.2 ⟨hcall, by simp [hlabels]⟩)
  · intro hmem
    obtain ⟨role, hrole, rfl⟩ := List.mem_map.1 hmem
    obtain ⟨call, hshared⟩ := List.exists_mem_of_ne_nil _ ((hcalled role).1 hrole)
    obtain ⟨hcall, hkey⟩ := List.mem_filter.1 hshared
    -- the call is one of a role, and no other role has the text of this one
    obtain ⟨other, hlabels⟩ := h.own call hcall
    have hsame : other = role := by
      apply Role.key_labels_injective
      rw [← hlabels]
      simpa using hkey
    exact ⟨call, hcall, hsame ▸ hlabels⟩

/-- The pairs in the trace are those of the roles that were called, in order. -/
theorem Recorded.seen_eq {recorded : List Trace.Record} {answers : List Answered} {trace : Trace}
    (h : Recorded recorded answers) (htells : Trace.Tells recorded trace) :
    trace.seen = (calledRoles answers).map Role.labels := by
  have hirrefl : Std.Irrefl fun a b : CallLabels => (a.before b : Prop) := ⟨not_before_self⟩
  have hantisymm : Std.Antisymm fun a b : CallLabels => (a.before b : Prop) :=
    ⟨fun a b hab hba => absurd (before_trans hab hba) (not_before_self a)⟩
  have hroles : ([Role.planner, .worker].map Role.labels).Pairwise fun a b => a.before b := by
    decide
  -- two lists in strict order are equal once they have the same members
  apply List.Pairwise.eq_of_mem_iff htells.inOrder
  · exact hroles.sublist (List.Sublist.map _ List.filter_sublist)
  · exact fun labels => (htells.mem_seen labels).trans (h.exists_call_iff labels)

/-- The lines of the summary by the answers. -/
theorem Recorded.summary_eq {recorded : List Trace.Record} {answers : List Answered} {trace : Trace}
    (h : Recorded recorded answers) (htells : Trace.Tells recorded trace) :
    trace.summary.map (fun line => (line.labels, line.calls, line.errors)) =
      (calledRoles answers).map fun role =>
        (role.labels, .ofNat (numberOf role [200, 500] answers),
          .ofNat (numberOf role [500] answers)) := by
  rw [Trace.summary, h.seen_eq htells, List.map_map, List.map_map]
  apply List.map_congr_left
  intro role _
  have hcalls := htells.calls role.labels
  have herrors := htells.errors role.labels
  rw [h.calls role] at hcalls
  rw [h.errors role] at herrors
  exact Prod.ext rfl (Prod.ext hcalls herrors)

/-- **The accounts follow the answers.**  After any traffic at the routers of a new environment, of
    requests with any method, target, headers and body:

    - the counter of a role is the number of calls of the role that were answered with success, as a
      number of 64 bits;
    - the summary of the trace has one line for each role whose call was answered with success or failure
      since the last reset, and no other, with the number of these answers and of the failures among them;
    - a request that is refused, for its path, its method or its body, leaves the whole state as it
      was. -/
theorem accounts_follow_answers {identity : Identity} {config : Config} {now : Timestamp}
    {before machine : Machine} {environment : Environment} (hbefore : before.metrics.Unused)
    (hinit : Environment.init identity config now before = (machine, .ok environment))
    (traffic : List Traffic) :
    let session := (Session.start machine).serveAll environment traffic
    (∀ role : Role, session.machine.metrics.counter? role.counter =
      some (.ofNat (numberOf role [200] session.answers))) ∧
    session.machine.metrics.trace.summary.map (fun line => (line.labels, line.calls, line.errors)) =
      ((calledRoles session.recent).map fun role =>
        (role.labels, .ofNat (numberOf role [200, 500] session.recent),
          .ofNat (numberOf role [500] session.recent))) ∧
    (∀ (service : RoleService) request occasion present,
      (service.respond request occasion present).1.status ∈ RoleService.refusals →
      (service.respond request occasion present).2 = present) := by
  intro session
  obtain ⟨hcounted, htraced⟩ := Environment.unused_init hbefore hinit
  have hbalanced : session.Balanced :=
    Session.balanced_serveAll (.start hcounted htraced) environment traffic
  obtain ⟨recorded, hrecorded, htells⟩ := hbalanced.traced
  refine ⟨hbalanced.counted, hrecorded.summary_eq htells, fun service request occasion present h => ?_⟩
  obtain ⟨ok, -, hstatus, -⟩ | ⟨hsame, -⟩ := service.respond_cases request occasion present
  · rw [hstatus] at h
    cases ok <;> simp [RoleService.refusals] at h
  · exact hsame

/-- One request is planned, then the trace is reset, and then a request without statements fails and one
    for the path of the other role is refused. -/
def resetTraffic : List Traffic :=
  let plan (body : String) : Request :=
    ⟨"POST", "/rpc/plan_request", [("content-type", "application/json")], body⟩
  let occasion : Occasion := ⟨⟨"2026-01-01T00:00:00"⟩, 0, ⟨0, 0⟩, fun n => .ofNat n⟩
  [.request .planner (plan "[\"a; b\"]") occasion, .reset,
    .request .planner (plan "[\";\"]") occasion, .request .worker (plan "[\"a\"]") occasion]

/-- The environment of a new process that serves its pages. -/
def newEnvironment : Machine × Except Cause Environment :=
  Environment.init ⟨"recordserviced@node-1:12050"⟩ (.default "node-1") ⟨"2026-01-01T00:00:00"⟩
    (.fresh [])

theorem newEnvironment_eq : newEnvironment = (newEnvironment.1, .ok ⟨⟨"recordserviced@node-1:12050"⟩,
    0, some ⟨⟨.v4 .unspecified, 11050⟩, ⟨0, 1⟩⟩⟩) := by
  have hbuilt : newEnvironment.2 = .ok ⟨⟨"recordserviced@node-1:12050"⟩, 0,
      some ⟨⟨.v4 .unspecified, 11050⟩, ⟨0, 1⟩⟩⟩ := by decide +kernel
  rw [← hbuilt]

/-- One request is planned and counted, and after the reset one failure is left in the trace. -/
theorem accounts_follow_answers_reset :
    let environment : Environment := ⟨⟨"recordserviced@node-1:12050"⟩, 0,
      some ⟨⟨.v4 .unspecified, 11050⟩, ⟨0, 1⟩⟩⟩
    let session := (Session.start newEnvironment.1).serveAll environment resetTraffic
    (Machine.fresh []).metrics.Unused ∧ newEnvironment = (newEnvironment.1, .ok environment) ∧
    session.machine.metrics.counter? ExecutionService.plannedRequests = some 1 ∧
    session.machine.metrics.counter? ExecutionService.acceptedTasks = some 0 ∧
    session.machine.metrics.trace.summary.map (fun line => (line.labels, line.calls, line.errors)) =
      [(⟨"planner", "plan_request"⟩, 1, 1)] := by
  intro environment session
  have hunused : (Machine.fresh []).metrics.Unused := ⟨fun _ => rfl, rfl⟩
  have hinit : newEnvironment = (newEnvironment.1, .ok environment) := newEnvironment_eq
  have hanswers : numberOf .planner [200] session.answers = 1 ∧
      numberOf .worker [200] session.answers = 0 ∧ calledRoles session.recent = [.planner] ∧
      numberOf .planner [200, 500] session.recent = 1 ∧
      numberOf .planner [500] session.recent = 1 := by
    decide +kernel
  obtain ⟨hplanned, haccepted, hcalled, hcalls, herrors⟩ := hanswers
  obtain ⟨hcounted, hsummary, -⟩ := accounts_follow_answers hunused hinit resetTraffic
  have hplanner := hcounted .planner
  have hworker := hcounted .worker
  rw [hplanned] at hplanner
  rw [haccepted] at hworker
  rw [hcalled, List.map_singleton, hcalls, herrors] at hsummary
  exact ⟨hunused, hinit, hplanner, hworker, hsummary⟩

end Session

end RoleDaemon
