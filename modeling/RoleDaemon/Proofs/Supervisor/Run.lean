import RoleDaemon.Proofs.Config.Services
import RoleDaemon.Proofs.Environment
import RoleDaemon.Proofs.Readiness
import RoleDaemon.Proofs.Supervisor.Join
import RoleDaemon.Supervisor.Run

/-!
# What the Parts of a Run Can Do

Each part of a run is described once: how the course goes on, and what the result is.  What holds of
whole runs is put together from these descriptions.

Main statements:
- `Course.activate_spec`: services are bound up to the first that cannot be bound
- `Supervisor.startAll_cons`: the next service starts and is published, or the start ends with its error
- `Supervisor.giveUp_spec`: stopping and waiting, and the error that was there before
- `Supervisor.waitForServices_cases`, `Supervisor.runServices_cases`, `Supervisor.runRoles_cases`,
  `Supervisor.runLifecycle_cases`, `Supervisor.run_cases`: the ways through a run
-/

namespace RoleDaemon

open Metrics Net

/-! ## §1 Binding -/

/-- The handle of a service that was just bound. -/
def Handle.ofService (tasks : Nat) (service : Role × Binding) : Handle :=
  .new service.1 tasks service.2

@[simp] theorem Handle.role_ofService (tasks : Nat) (service : Role × Binding) :
    (Handle.ofService tasks service).role = service.1 := rfl

/-- The handle of a service that was just started. -/
def Handle.ofRunning (tasks : Nat) (service : Role × Binding) (state : Running) : Handle :=
  { ofService tasks service with phase := .running state }

@[simp] theorem Handle.role_ofRunning (tasks : Nat) (service : Role × Binding) (state : Running) :
    (Handle.ofRunning tasks service state).role = service.1 := rfl

/-- A service that runs, and was not waited for, ends as its loop does. -/
@[simp] theorem Handle.verdict_ofRunning (tasks : Nat) (service : Role × Binding) (state : Running) :
    (Handle.ofRunning tasks service state).verdict = (Handle.ofService tasks service).outcome := rfl

namespace Transport

/-- Why a service cannot be bound, where it cannot. -/
def bindError? (transport : Transport) (service : Role × UInt16) : Option BootstrapError :=
  match transport.bind service.1 service.2 with
  | .error cause => some (.serviceStart service.1 cause)
  | .ok _ => none

/-- What the services are bound to, in order; those that cannot be bound are left out. -/
def bound (transport : Transport) (services : List (Role × UInt16)) : List (Role × Binding) :=
  services.filterMap fun service => (transport.bind service.1 service.2).toOption.map (service.1, ·)

theorem bindError?_eq_none_iff {transport : Transport} {service : Role × UInt16} :
    transport.bindError? service = none ↔
      ∃ binding, transport.bind service.1 service.2 = .ok binding := by
  unfold bindError?
  cases transport.bind service.1 service.2 <;> simp

/-- Where every service can be bound, none is left out. -/
theorem map_fst_bound {transport : Transport} {services : List (Role × UInt16)}
    (h : services.findSome? transport.bindError? = none) :
    (transport.bound services).map Prod.fst = services.map Prod.fst := by
  induction services with
  | nil => rfl
  | cons service services ih =>
    have hnone := List.findSome?_eq_none_iff.1 h
    have hrest : services.findSome? transport.bindError? = none :=
      List.findSome?_eq_none_iff.2 fun other hother => hnone other (List.mem_cons_of_mem _ hother)
    obtain ⟨binding, hbind⟩ := bindError?_eq_none_iff.1 (hnone service (List.mem_cons_self ..))
    have hbound : transport.bound (service :: services) =
        (service.1, binding) :: transport.bound services := by
      simp [bound, hbind, Except.toOption]
    rw [hbound, List.map_cons, List.map_cons, ih hrest]

/-- What is bound is bound at its port. -/
theorem exists_of_mem_bound {transport : Transport} {services : List (Role × UInt16)} {role : Role}
    {binding : Binding} (h : (role, binding) ∈ transport.bound services) :
    ∃ port, (role, port) ∈ services ∧ transport.bind role port = .ok binding := by
  obtain ⟨⟨role', port⟩, hmem, hbind⟩ := List.mem_filterMap.1 h
  cases hresult : transport.bind role' port with
  | error cause => simp [hresult, Except.toOption] at hbind
  | ok binding' =>
    obtain ⟨rfl, rfl⟩ : role' = role ∧ binding' = binding := by
      simpa [hresult, Except.toOption] using hbind
    exact ⟨port, hmem, hresult⟩

end Transport

/-- The deeds of binding. -/
def Deed.isBinding : Deed → Bool
  | .reported | .bound .. => true
  | _ => false

namespace Course

/-- Binding the first service, and what follows from it. -/
theorem activate_cons (transport : Transport) (tasks : Nat) (course : Course)
    (service : Role × UInt16) (services : List (Role × UInt16)) :
    let created := course.report (.serviceCreating service.1 service.2)
    course.activate transport tasks (service :: services) =
      match transport.bind service.1 service.2 with
      | .error cause => (created.act (.bound service.1 service.2 false) created.machine,
          .error (.serviceStart service.1 cause))
      | .ok binding =>
        let rest := (created.act (.bound service.1 service.2 true) created.machine).activate
          transport tasks services
        (rest.1, rest.2.map (Handle.ofService tasks (service.1, binding) :: ·)) := by
  obtain ⟨role, port⟩ := service
  cases hbind : transport.bind role port with
  | error cause => simp [activate, hbind]
  | ok binding => simp [activate, hbind, Handle.ofService]

/-- Binding reaches the first service that cannot be bound, and gives its error, or it gives the
    handles of all services. -/
theorem activate_spec (transport : Transport) (tasks : Nat) (course : Course)
    (services : List (Role × UInt16)) :
    Leads (Deed.isBinding ·) course (course.activate transport tasks services).1 ∧
    (∃ log, (course.activate transport tasks services).1.machine = { course.machine with log }) ∧
    (course.activate transport tasks services).2 =
      match services.findSome? transport.bindError? with
      | some error => .error error
      | none => .ok ((transport.bound services).map (Handle.ofService tasks)) := by
  induction services generalizing course with
  | nil => exact ⟨Leads.refl course, ⟨_, rfl⟩, rfl⟩
  | cons service services ih =>
    rw [activate_cons]
    set created := course.report (.serviceCreating service.1 service.2) with hcreated
    have hleads : ∀ succeeded, Leads (Deed.isBinding ·) course
        (created.act (.bound service.1 service.2 succeeded) created.machine) := by
      intro succeeded
      have hreport : Leads (Deed.isBinding ·) course created := Leads.report course _ (by rfl)
      exact hreport.trans (Leads.act created (by rfl) (Registry.KeepsFlags.refl _))
    cases hbind : transport.bind service.1 service.2 with
    | error cause =>
      -- the services behind this one are not bound
      have herror : transport.bindError? service = some (.serviceStart service.1 cause) := by
        simp [Transport.bindError?, hbind]
      refine ⟨hleads false, ⟨_, rfl⟩, ?_⟩
      simp [herror]
    | ok binding =>
      have herror : transport.bindError? service = none := by
        simp [Transport.bindError?, hbind]
      have hbound : transport.bound (service :: services) =
          (service.1, binding) :: transport.bound services := by
        simp [Transport.bound, hbind, Except.toOption]
      obtain ⟨hrest, ⟨log, hmachine⟩, hresult⟩ :=
        ih (created.act (.bound service.1 service.2 true) created.machine)
      refine ⟨(hleads true).trans hrest, ⟨log, hmachine⟩, ?_⟩
      simp only [hresult, List.findSome?_cons, herror, hbound]
      cases services.findSome? transport.bindError? <;> rfl

end Course

namespace Supervisor

/-! ## §2 Starting -/

/-- A service that has started is published and reported. -/
def publish (course : Course) (handle : Handle) : Course :=
  (course.act (.roleMarked handle.role) (Readiness.markRole course.machine handle.role)).report
    (.serviceStarted handle.role handle.boundPort)

@[simp] theorem deeds_publish (course : Course) (handle : Handle) :
    (publish course handle).deeds = course.deeds ++ [.roleMarked handle.role, .reported] := by
  simp [publish]

@[simp] theorem publish_sockets (course : Course) (handle : Handle) :
    (publish course handle).machine.sockets = course.machine.sockets :=
  (Readiness.markRole_frame course.machine handle.role).1

/-- The first of the services fails to start, which nothing but its place and the listeners decides, or
    it starts and is published before the next one starts. -/
theorem startAll_cons (now : Timestamp) (course : Course) (started : List Handle) (tasks : Nat)
    (service : Role × Binding) (handles : List Handle) :
    match service.2.seat.startFault? service.1 course.machine.sockets with
    | some cause =>
      startAll now course started (.ofService tasks service :: handles) =
        (course.act (.started service.1 false) course.machine,
          started.reverse ++ { Handle.ofService tasks service with phase := .refused } :: handles,
          .error (.serviceStart service.1 cause))
    | none => ∃ state machine,
      (Handle.ofService tasks service).start now course.machine =
        (.ofRunning tasks service state, machine, .ok ()) ∧
      machine.sockets = service.2.seat.occupy course.machine.sockets ∧
      course.machine.metrics.KeepsFlags machine.metrics ∧
      startAll now course started (.ofService tasks service :: handles) =
        startAll now
          (publish (course.act (.started service.1 true) machine) (.ofRunning tasks service state))
          (.ofRunning tasks service state :: started) handles := by
  have hstart := Handle.start_new service.1 tasks service.2 now course.machine
  cases hfault : service.2.seat.startFault? service.1 course.machine.sockets with
  | some cause =>
    simp only [hfault] at hstart
    simp only [startAll, Handle.ofService, hstart]
    rfl
  | none =>
    simp only [hfault] at hstart
    obtain ⟨state, machine, hstarted, hsockets, hkept⟩ := hstart
    refine ⟨state, machine, hstarted, hsockets, hkept, ?_⟩
    simp only [startAll, Handle.ofService, hstarted, publish]
    rfl

/-! ## §3 Giving Up -/

theorem findSome?_panic?_stop (handles : List Handle) :
    (handles.map Handle.stop).findSome? Handle.panic? = handles.findSome? Handle.panic? := by
  rw [List.findSome?_map]
  rfl

/-- What giving up comes to: the error that was there before, unless the waiting breaks off. -/
def Result.gaveUp (error : BootstrapError) : Option LoopFault → Result
  | none => .failed error
  | some fault => .brokenOff fault

/-- Giving up stops all services and waits for them, and the result is the error that was there before,
    unless a service in memory breaks off whoever waits for it. -/
theorem giveUp_spec (course : Course) (handles : List Handle) (error : BootstrapError) :
    Course.Leads (Deed.isIdle ·) course (giveUp course handles error).1 ∧
      (giveUp course handles error).2 = .gaveUp error (handles.findSome? Handle.panic?) := by
  have hstopped := Course.stopAll_leads course handles
  have hstop : ∀ handle ∈ handles.map Handle.stop, handle.stopRequested := by
    intro handle hhandle
    obtain ⟨_, -, rfl⟩ := List.mem_map.1 hhandle
    rfl
  obtain ⟨hwaited, hfault⟩ :=
    Course.waitAll_spec (course.stopAll handles).1 (handles.map Handle.stop) hstop
  have hhandles : (course.stopAll handles).2 = handles.map Handle.stop := by
    rw [Course.stopAll_eq]
  rw [findSome?_panic?_stop] at hfault
  simp only [giveUp, hhandles]
  rcases hwait : (course.stopAll handles).1.waitAll (handles.map Handle.stop) with
    ⟨waited, left, fault?⟩
  rw [hwait] at hwaited hfault
  have hleads := hstopped.trans hwaited
  rw [← show fault? = _ from hfault]
  cases fault? with
  | none => exact ⟨hleads.congr rfl rfl, rfl⟩
  | some fault => exact ⟨hleads.congr rfl rfl, rfl⟩

/-! ## §4 Ways through a Run -/

/-- The course on which the daemon begins to wait. -/
def blocked (course : Course) : Course :=
  ((course.enter .running).report .daemonStarted).enter .blocked

/-- The daemon waits until every end was seen, or for ever. -/
theorem waitForServices_cases (supervisor : Supervisor) (course : Course) (handles : List Handle) :
    let join := (Join.begin (blocked course) handles).run supervisor.happenings
    (join.result? = none ∧ supervisor.waitForServices course handles =
        (join.course.keep join.handles, .unfinished)) ∨
    ∃ result, join.result? = some result ∧ supervisor.waitForServices course handles =
        (((join.course.keep join.handles).enter .terminated).report .servicesStopped,
          .finished result) := by
  simp only [waitForServices, blocked]
  generalize (Join.begin _ handles).run supervisor.happenings = join
  cases join.result? with
  | none => exact .inl ⟨rfl, rfl⟩
  | some result => exact .inr ⟨result, rfl, rfl⟩

def starting (course : Course) : Course := (course.enter .servicesCreated).enter .starting

/-- Some service cannot be bound; or the services were bound and some service cannot be started; or all
    services were started, and the daemon cannot be published; or it was published, and waits. -/
theorem runServices_cases (supervisor : Supervisor) (roles : EnabledRoles) (environment : Environment)
    (course : Course) :
    let created := course.act .serviceCreated course.machine
    let bound := created.activate supervisor.transport environment.tasks roles.toList
    (∃ error, bound.2 = .error error ∧
      supervisor.runServices roles environment course = (bound.1, .failed error)) ∨
    ∃ handles, bound.2 = .ok handles ∧
      let begun := startAll supervisor.now (starting bound.1) [] handles
      (∃ error, begun.2.2 = .error error ∧
        supervisor.runServices roles environment course = giveUp begun.1 begun.2.1 error) ∨
      (begun.2.2 = .ok () ∧ ∃ cause, Readiness.markServer begun.1.machine roles = .error cause ∧
        supervisor.runServices roles environment course =
          giveUp begun.1 begun.2.1 (.readiness cause)) ∨
      (begun.2.2 = .ok () ∧ ∃ machine, Readiness.markServer begun.1.machine roles = .ok machine ∧
        supervisor.runServices roles environment course =
          supervisor.waitForServices (begun.1.act .serverMarked machine) begun.2.1) := by
  -- the cases of the run are the cases of its results on the way
  simp only [runServices, starting]
  rcases (course.act .serviceCreated course.machine).activate supervisor.transport environment.tasks
    roles.toList with ⟨bound, error | handles⟩
  · exact .inl ⟨error, rfl, rfl⟩
  · refine .inr ⟨handles, rfl, ?_⟩
    simp only
    rcases startAll supervisor.now ((bound.enter .servicesCreated).enter .starting) [] handles with
      ⟨begun, left, error | _⟩
    · exact .inl ⟨error, rfl, rfl⟩
    · right
      simp only
      cases hmark : Readiness.markServer begun.machine roles with
      | error cause => exact .inl ⟨trivial, cause, rfl, rfl⟩
      | ok machine => exact .inr ⟨trivial, machine, rfl, rfl⟩

/-- The environment cannot be built; or it was built, and it is taken down when the run in it comes to a
    result. -/
theorem runRoles_cases (supervisor : Supervisor) (roles : EnabledRoles) (course : Course) :
    let identity := Identity.generate supervisor.config.hostname roles.primaryPort
    let named := course.report (.identityGenerated identity)
    let built := Environment.init identity supervisor.config supervisor.now named.machine
    (∃ cause, built.2 = .error cause ∧ supervisor.runRoles roles course =
        (named.act (.environmentBuilt false) built.1, .failed (.environment cause))) ∨
    ∃ environment, built.2 = .ok environment ∧
      let served := supervisor.runServices roles environment
        ((named.act (.environmentBuilt true) built.1).within environment)
      ((∃ result, served.2 = .finished result) ∧
        supervisor.runRoles roles course = (served.1.leave environment, served.2)) ∨
      ((∀ result, served.2 ≠ .finished result) ∧ supervisor.runRoles roles course = served) := by
  simp only [runRoles]
  rcases Environment.init _ supervisor.config supervisor.now _ with ⟨built, cause | environment⟩
  · exact .inl ⟨cause, rfl, rfl⟩
  · refine .inr ⟨environment, rfl, ?_⟩
    simp only
    rcases supervisor.runServices roles environment _ with ⟨served, result | _ | fault⟩
    · exact .inl ⟨⟨result, rfl⟩, rfl⟩
    · exact .inr ⟨by simp, rfl⟩
    · exact .inr ⟨by simp, rfl⟩

/-- The steps of the subsystem bootstrap were run. -/
def booted (supervisor : Supervisor) (course : Course) : Course :=
  let report := Subsystem.run supervisor.steps supervisor.config.subsystems
  course.act (.bootstrapped report.executed)
    { course.machine with log := course.machine.log ++ report.events }

/-- The configuration is refused, or a subsystem step fails, or the run goes on. -/
theorem runLifecycle_cases (supervisor : Supervisor) (course : Course) :
    (∃ error, supervisor.config.validate = .error error ∧
      supervisor.runLifecycle course = (course, .failed error)) ∨
    ∃ roles, supervisor.config.validate = .ok roles ∧
      let report := Subsystem.run supervisor.steps supervisor.config.subsystems
      ((∃ error, report.result = .error error ∧
          supervisor.runLifecycle course = (supervisor.booted course, .failed error)) ∨
        (∃ names, report.result = .ok names ∧
          supervisor.runLifecycle course = supervisor.runRoles roles (supervisor.booted course))) := by
  unfold runLifecycle
  cases supervisor.config.validate with
  | error error => exact .inl ⟨error, rfl, rfl⟩
  | ok roles =>
    refine .inr ⟨roles, rfl, ?_⟩
    simp only [booted]
    cases hresult : (Subsystem.run supervisor.steps supervisor.config.subsystems).result with
    | error error => exact .inl ⟨error, rfl, rfl⟩
    | ok names => exact .inr ⟨names, rfl, rfl⟩

/-- A run that comes to an error is aborted, and any other is not. -/
theorem run_cases (supervisor : Supervisor) (machine : Machine) :
    let lived := supervisor.runLifecycle ((Course.start machine).enter .init)
    (∃ error, lived.2 = .failed error ∧
      supervisor.run machine = ((lived.1.enter .fatalAbort).report (.aborted error), .failed error)) ∨
    ((∀ error, lived.2 ≠ .failed error) ∧ supervisor.run machine = lived) := by
  unfold run
  rcases supervisor.runLifecycle ((Course.start machine).enter .init) with
    ⟨course, (error | _) | _ | fault⟩
  · exact .inl ⟨error, rfl, rfl⟩
  · exact .inr ⟨by simp [Result.failed], rfl⟩
  · exact .inr ⟨by simp [Result.failed], rfl⟩
  · exact .inr ⟨by simp [Result.failed], rfl⟩

end Supervisor

end RoleDaemon
