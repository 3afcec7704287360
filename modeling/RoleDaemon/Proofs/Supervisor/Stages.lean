import RoleDaemon.Proofs.Subsystem.Run
import RoleDaemon.Proofs.Supervisor.Run
import Mathlib.Data.List.Perm.Subperm

/-!
# The Stages of a Run

A run goes through stages in a fixed order: the checks of the configuration, the subsystem steps, the
environment, the binding and then the start of every service, and the publication.  Which of them is at
fault follows from what the run takes from outside, before anything is done.

Main definitions:
- `Effect`: what a run does to the outside on its way up
- `Stage`: a stage, with its fault and its effects
- `Supervisor.preparation`, `Supervisor.launch`: the stages of a run

Main statements:
- `Stage.effects_append`: the stages after a faulty one have no effects
- `Subsystem.run_stages`, `Course.activate_stages`: the subsystem steps and the binding of the services
  go through their stages
-/

namespace RoleDaemon

open Net

/-! ## §1 Effects and States -/

/-- What a run does to the outside on its way up. -/
inductive Effect where
  | stepRun (execution : Subsystem.Execution)
  | environmentBuilt (succeeded : Bool)
  | bound (role : Role) (port : UInt16) (succeeded : Bool)
  | started (role : Role) (succeeded : Bool)
  | roleMarked (role : Role)
  | serverMarked
  deriving DecidableEq, Repr

namespace Deed

def effects : Deed → List Effect
  | .bootstrapped executed => executed.map .stepRun
  | .environmentBuilt succeeded => [.environmentBuilt succeeded]
  | .bound role port succeeded => [.bound role port succeeded]
  | .started role succeeded => [.started role succeeded]
  | .roleMarked role => [.roleMarked role]
  | .serverMarked => [.serverMarked]
  | _ => []

def state? : Deed → Option Lifecycle
  | .entered state => some state
  | _ => none

end Deed

namespace Course

/-- All effects, in order. -/
def effects (course : Course) : List Effect := course.deeds.flatMap Deed.effects

/-- The states of the lifecycle that were entered, in order. -/
def states (course : Course) : List Lifecycle := course.deeds.filterMap Deed.state?

/-- The roles whose services were waited for, in order. -/
def ended (course : Course) : List Role := course.deeds.filterMap Deed.joinedRole?

section Readings

variable (course : Course)

@[simp] theorem effects_act (deed : Deed) (machine : Machine) :
    (course.act deed machine).effects = course.effects ++ deed.effects := by
  simp [effects]

@[simp] theorem states_act (deed : Deed) (machine : Machine) :
    (course.act deed machine).states = course.states ++ deed.state?.toList := by
  cases deed <;> simp [states, Deed.state?]

@[simp] theorem ended_act (deed : Deed) (machine : Machine) :
    (course.act deed machine).ended = course.ended ++ deed.joinedRole?.toList := by
  cases deed <;> simp [ended, Deed.joinedRole?]

@[simp] theorem effects_report (event : Log.Event) : (course.report event).effects = course.effects := by
  simp [report, Deed.effects]

@[simp] theorem states_report (event : Log.Event) : (course.report event).states = course.states := by
  simp [report, Deed.state?]

@[simp] theorem ended_report (event : Log.Event) : (course.report event).ended = course.ended := by
  simp [report, Deed.joinedRole?]

@[simp] theorem effects_enter (next : Lifecycle) : (course.enter next).effects = course.effects := by
  simp [effects, Deed.effects]

@[simp] theorem states_enter (next : Lifecycle) :
    (course.enter next).states = course.states ++ [next] := by
  simp [states, Deed.state?]

@[simp] theorem ended_enter (next : Lifecycle) : (course.enter next).ended = course.ended := by
  simp [ended, Deed.joinedRole?]

@[simp] theorem effects_leave (environment : Environment) :
    (course.leave environment).effects = course.effects := by
  simp [effects, Deed.effects]

@[simp] theorem states_leave (environment : Environment) :
    (course.leave environment).states = course.states := by
  simp [states, Deed.state?]

@[simp] theorem ended_leave (environment : Environment) :
    (course.leave environment).ended = course.ended := by
  simp [ended, Deed.joinedRole?]

@[simp] theorem effects_within (environment : Environment) :
    (course.within environment).effects = course.effects := rfl

@[simp] theorem states_within (environment : Environment) :
    (course.within environment).states = course.states := rfl

@[simp] theorem ended_within (environment : Environment) :
    (course.within environment).ended = course.ended := rfl

@[simp] theorem effects_keep (handles : List Handle) : (course.keep handles).effects = course.effects :=
  rfl

@[simp] theorem states_keep (handles : List Handle) : (course.keep handles).states = course.states :=
  rfl

@[simp] theorem ended_keep (handles : List Handle) : (course.keep handles).ended = course.ended := rfl

end Readings

variable {kind : Deed → Prop} {before after : Course}

theorem Extends.effects (h : Extends kind before after) (hkind : ∀ deed, kind deed → deed.effects = []) :
    after.effects = before.effects := by
  obtain ⟨since, hdeeds, hsince⟩ := h
  have hnone : since.flatMap Deed.effects = [] :=
    List.flatMap_eq_nil_iff.2 fun deed hdeed => hkind deed (hsince deed hdeed)
  rw [Course.effects, hdeeds, List.flatMap_append, hnone, List.append_nil]
  rfl

/-- Deeds of which nothing is read do not change what is read. -/
theorem Extends.filterMap_deeds (h : Extends kind before after) {α : Type} {read? : Deed → Option α}
    (hkind : ∀ deed, kind deed → read? deed = none) :
    after.deeds.filterMap read? = before.deeds.filterMap read? := by
  obtain ⟨since, hdeeds, hsince⟩ := h
  have hnone : since.filterMap read? = [] :=
    List.filterMap_eq_nil_iff.2 fun deed hdeed => hkind deed (hsince deed hdeed)
  rw [hdeeds, List.filterMap_append, hnone, List.append_nil]

theorem Extends.states (h : Extends kind before after)
    (hkind : ∀ deed, kind deed → deed.state? = none) : after.states = before.states :=
  h.filterMap_deeds hkind

theorem Extends.ended (h : Extends kind before after)
    (hkind : ∀ deed, kind deed → deed.joinedRole? = none) : after.ended = before.ended :=
  h.filterMap_deeds hkind

end Course

/-! ## §2 Stages -/

/-- A stage: why it is at fault, where it is, and its effects when it fails and when it passes. -/
structure Stage where
  fault? : Option BootstrapError
  failed : List Effect
  passed : List Effect

namespace Stage

/-- The fault of the first faulty stage. -/
def firstFault? (stages : List Stage) : Option BootstrapError := stages.findSome? fault?

/-- The effects of the stages up to the first faulty one. -/
def effects : List Stage → List Effect
  | [] => []
  | stage :: stages => if stage.fault?.isSome then stage.failed else stage.passed ++ effects stages

theorem firstFault?_append (first second : List Stage) :
    firstFault? (first ++ second) = (firstFault? first).or (firstFault? second) :=
  List.findSome?_append

theorem effects_cons_of_fault {stage : Stage} {error : BootstrapError}
    (h : stage.fault? = some error) (stages : List Stage) :
    effects (stage :: stages) = stage.failed := by
  simp [effects, h]

theorem effects_cons_of_passed {stage : Stage} (h : stage.fault? = none) (stages : List Stage) :
    effects (stage :: stages) = stage.passed ++ effects stages := by
  simp [effects, h]

/-- Stages behind a faulty one have no effects. -/
theorem effects_append (first second : List Stage) :
    effects (first ++ second) =
      effects first ++ if (firstFault? first).isSome then [] else effects second := by
  induction first with
  | nil => simp [effects, firstFault?]
  | cons stage first ih =>
    cases hfault : stage.fault? with
    | some error => simp [effects, firstFault?, hfault]
    | none => simp [effects, ih, firstFault?, hfault]

end Stage

/-- Running a subsystem step. -/
def Subsystem.Step.stage (config : SubsystemConfig) (step : Step) : Stage where
  fault? :=
    match (step.init config).result with
    | .error cause => some (.subsystem step.name cause)
    | .ok () => none
  failed := [.stepRun ⟨step.name, config⟩]
  passed := [.stepRun ⟨step.name, config⟩]

/-- Binding a service. -/
def Transport.stage (transport : Transport) (service : Role × UInt16) : Stage where
  fault? := transport.bindError? service
  failed := [.bound service.1 service.2 false]
  passed := [.bound service.1 service.2 true]

/-- Starting a service next to the given listeners, and publishing it. -/
def startStage (service : Role × Binding) (sockets : Sockets) : Stage where
  fault? := (service.2.seat.startFault? service.1 sockets).map (.serviceStart service.1 ·)
  failed := [.started service.1 false]
  passed := [.started service.1 true, .roleMarked service.1]

/-- Starting one service after the other. -/
def startStages : List (Role × Binding) → Sockets → List Stage
  | [], _ => []
  | service :: services, sockets =>
    startStage service sockets :: startStages services (service.2.seat.occupy sockets)

/-- The services that are started before the first one that cannot be. -/
def startedOf : List (Role × Binding) → Sockets → List (Role × Binding)
  | [], _ => []
  | service :: services, sockets =>
    match service.2.seat.startFault? service.1 sockets with
    | some _ => []
    | none => service :: startedOf services (service.2.seat.occupy sockets)

/-- The error that the loop of a service ends with, where it does. -/
def loopError? (service : Role × Binding) : Option BootstrapError :=
  match (Handle.ofService 0 service).outcome with
  | .ok () => none
  | .error fault => some (.serviceFailed service.1 (Join.causeOf fault))

/-- The fault by which the loop of a service takes whoever waits for it along, where it does. -/
def loopPanic? (service : Role × Binding) : Option LoopFault :=
  match (Handle.ofService 0 service).outcome with
  | .error (.panicked task message) => some (.panicked task message)
  | _ => none

/-- The port that names the daemon: the first that is not 0. -/
def Config.primaryPort (config : Config) : UInt16 :=
  (config.services.head?.map Prod.snd).getD 0

namespace Supervisor

/-- Some role has a port. -/
def rolesStage (supervisor : Supervisor) : Stage where
  fault? := if supervisor.config.services = [] then some .noRoleEnabled else none
  failed := []
  passed := []

/-- The host name is acceptable. -/
def hostnameStage (supervisor : Supervisor) : Stage where
  fault? :=
    match Hostname.check supervisor.config.hostname with
    | .error fault => some (.invalidConfig fault.message)
    | .ok () => none
  failed := []
  passed := []

/-- The environment, as it is built in the given state of the process. -/
def environment (supervisor : Supervisor) (machine : Machine) : Machine × Except Cause Environment :=
  Environment.init (.generate supervisor.config.hostname supervisor.config.primaryPort)
    supervisor.config supervisor.now machine

/-- The environment can be built. -/
def environmentStage (supervisor : Supervisor) (machine : Machine) : Stage where
  fault? :=
    match (supervisor.environment machine).2 with
    | .error cause => some (.environment cause)
    | .ok _ => none
  failed := [.environmentBuilt false]
  passed := [.environmentBuilt true]

def bound (supervisor : Supervisor) : List (Role × Binding) :=
  supervisor.transport.bound supervisor.config.services

/-- The stages up to the binding of the services. -/
def preparation (supervisor : Supervisor) (machine : Machine) : List Stage :=
  supervisor.rolesStage :: supervisor.hostnameStage ::
    supervisor.steps.map (Subsystem.Step.stage supervisor.config.subsystems) ++
    supervisor.environmentStage machine ::
    supervisor.config.services.map supervisor.transport.stage

/-- The stages of the start. -/
def launch (supervisor : Supervisor) (machine : Machine) : List Stage :=
  startStages supervisor.bound (supervisor.environment machine).1.sockets

/-- The services that were started before the first one that cannot be. -/
def launched (supervisor : Supervisor) (machine : Machine) : List (Role × Binding) :=
  startedOf supervisor.bound (supervisor.environment machine).1.sockets

/-- The whole daemon is published, which cannot fail once all services have started. -/
def publication : Stage := ⟨none, [], [.serverMarked]⟩

end Supervisor

/-! ## §3 The Parts of a Run Go through Their Stages -/

/-- The subsystem bootstrap runs the steps up to the first faulty one, whose error it gives. -/
theorem Subsystem.run_stages (steps : List Step) (config : SubsystemConfig) :
    (run steps config).executed.map .stepRun = Stage.effects (steps.map (Step.stage config)) ∧
      match Stage.firstFault? (steps.map (Step.stage config)) with
      | some error => (run steps config).result = .error error
      | none => ∃ names, (run steps config).result = .ok names := by
  induction steps with
  | nil => exact ⟨rfl, [], rfl⟩
  | cons step steps ih =>
    obtain ⟨hexecuted, hresult⟩ := ih
    cases hstep : (step.init config).result with
    | error cause =>
      simp only [run_cons_of_error hstep, hstep, List.map_cons, Stage.effects, Stage.firstFault?,
        List.findSome?_cons, Step.stage]
      exact ⟨rfl, trivial⟩
    | ok _ =>
      have hfault : (Step.stage config step).fault? = none := by simp [Step.stage, hstep]
      simp only [Stage.firstFault?] at hresult
      simp only [run_cons_of_succeeds hstep, List.map_cons, Stage.effects, Stage.firstFault?,
        List.findSome?_cons, hfault, hexecuted]
      refine ⟨rfl, ?_⟩
      split
      · rename_i error hrest
        simp only [hrest] at hresult
        rw [hresult]
        rfl
      · rename_i hrest
        simp only [hrest] at hresult
        obtain ⟨names, hnames⟩ := hresult
        exact ⟨step.name :: names, by rw [hnames]; rfl⟩

/-- Binding goes through its stages. -/
theorem Course.activate_stages (transport : Transport) (tasks : Nat) (course : Course)
    (services : List (Role × UInt16)) :
    (course.activate transport tasks services).1.effects =
      course.effects ++ Stage.effects (services.map transport.stage) := by
  induction services generalizing course with
  | nil => simp [activate, Stage.effects]
  | cons service services ih =>
    rw [activate_cons]
    cases hbind : transport.bind service.1 service.2 with
    | error cause =>
      have hfault : transport.bindError? service = some (.serviceStart service.1 cause) := by
        simp [Transport.bindError?, hbind]
      simp [Stage.effects, Transport.stage, hfault, Course.effects, Deed.effects]
    | ok binding =>
      have hfault : transport.bindError? service = none := by
        simp [Transport.bindError?, hbind]
      simp only [ih]
      simp [Stage.effects, Transport.stage, hfault, Course.effects, Deed.effects]

/-- Binding is at fault by the first service that cannot be bound. -/
theorem firstFault?_map_stage (transport : Transport) (services : List (Role × UInt16)) :
    Stage.firstFault? (services.map transport.stage) = services.findSome? transport.bindError? := by
  rw [Stage.firstFault?, List.findSome?_map]
  rfl

end RoleDaemon
