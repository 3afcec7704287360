import RoleDaemon.Environment.Basic
import RoleDaemon.Subsystem.Basic
import RoleDaemon.Supervisor.Activation
import RoleDaemon.Supervisor.Join

/-!
# The Supervisor

The supervisor takes the daemon from its configuration to its end: it checks the configuration, sets
up the subsystems, builds the environment, binds and starts a service for each enabled role, publishes
readiness, and waits for the services to end.  Every failure on the way is fatal; whatever was started
before it is stopped and waited for.

Main definitions:
- `Supervisor`: what a run takes from outside
- `Supervisor.run`: the run, with its result where it comes to an end
-/

namespace RoleDaemon

/-- What a run takes from outside: the configuration, the steps of the subsystem bootstrap, the
    transport, the time of the start, and what happens while the daemon waits. -/
structure Supervisor where
  config : Config
  steps : List Subsystem.Step
  transport : Transport
  now : Timestamp
  happenings : List Happening

namespace Supervisor

/-- How a run comes out. -/
inductive Result where
  /-- The run comes to its end, with an error or without one. -/
  | finished (result : Except BootstrapError Unit)
  /-- Some service does not end, and the run goes on waiting. -/
  | unfinished
  /-- The wait for a service breaks off, and the run with it. -/
  | brokenOff (fault : LoopFault)

/-- The run ends with an error. -/
def Result.failed (error : BootstrapError) : Result := .finished (.error error)

/-! ## §1 Starting the Services -/

/-- Starts services in order, and publishes each role as soon as its service accepts calls.  With the
    first service that fails to start, the result is its error, and what became of all handles is
    given in any case; `started` are the handles before, the last one first. -/
def startAll (now : Timestamp) (course : Course) (started : List Handle) :
    List Handle → Course × List Handle × Except BootstrapError Unit
  | [] => (course, started.reverse, .ok ())
  | handle :: handles =>
    match handle.start now course.machine with
    | (handle, machine, .error cause) =>
      (course.act (.started handle.role false) machine, started.reverse ++ handle :: handles,
        .error (.serviceStart handle.role cause))
    | (handle, machine, .ok ()) =>
      let course := course.act (.started handle.role true) machine
      let course := course.act (.roleMarked handle.role)
        (Readiness.markRole course.machine handle.role)
      let course := course.report (.serviceStarted handle.role handle.boundPort)
      startAll now course (handle :: started) handles

/-- Stops services, waits for all of them, and ends the run with an error. -/
def giveUp (course : Course) (handles : List Handle) (error : BootstrapError) : Course × Result :=
  let (course, handles) := course.stopAll handles
  match course.waitAll handles with
  | (course, handles, none) => (course.keep handles, .failed error)
  | (course, handles, some fault) => (course.keep handles, .brokenOff fault)

/-! ## §2 The Run -/

/-- All services run: the daemon waits for them to end. -/
def waitForServices (supervisor : Supervisor) (course : Course) (handles : List Handle) :
    Course × Result :=
  let course := (course.enter .running).report .daemonStarted
  let join := (Join.begin (course.enter .blocked) handles).run supervisor.happenings
  let course := join.course.keep join.handles
  match join.result? with
  | none => (course, .unfinished)
  | some result => ((course.enter .terminated).report .servicesStopped, .finished result)

/-- The part of a run that has an environment. -/
def runServices (supervisor : Supervisor) (roles : EnabledRoles) (environment : Environment)
    (course : Course) : Course × Result :=
  let course := course.act .serviceCreated course.machine
  match course.activate supervisor.transport environment.tasks roles.toList with
  | (course, .error error) => (course, .failed error)
  | (course, .ok handles) =>
    match startAll supervisor.now ((course.enter .servicesCreated).enter .starting) [] handles with
    | (course, handles, .error error) => giveUp course handles error
    | (course, handles, .ok ()) =>
      match Readiness.markServer course.machine roles with
      | .error cause => giveUp course handles (.readiness cause)
      | .ok machine => supervisor.waitForServices (course.act .serverMarked machine) handles

/-- The part of a run behind the subsystem bootstrap. -/
def runRoles (supervisor : Supervisor) (roles : EnabledRoles) (course : Course) : Course × Result :=
  let identity := Identity.generate supervisor.config.hostname roles.primaryPort
  let course := course.report (.identityGenerated identity)
  match Environment.init identity supervisor.config supervisor.now course.machine with
  | (machine, .error cause) =>
    (course.act (.environmentBuilt false) machine, .failed (.environment cause))
  | (machine, .ok environment) =>
    let course := (course.act (.environmentBuilt true) machine).within environment
    match supervisor.runServices roles environment course with
    | (course, .finished result) => (course.leave environment, .finished result)
    | (course, result) => (course, result)

/-- A run up to its result, from the check of the configuration on. -/
def runLifecycle (supervisor : Supervisor) (course : Course) : Course × Result :=
  match supervisor.config.validate with
  | .error error => (course, .failed error)
  | .ok roles =>
    let report := Subsystem.run supervisor.steps supervisor.config.subsystems
    let course := course.act (.bootstrapped report.executed)
      { course.machine with log := course.machine.log ++ report.events }
    match report.result with
    | .error error => (course, .failed error)
    | .ok _ => supervisor.runRoles roles course

/-- A run in a process whose readiness flags are registered. -/
def run (supervisor : Supervisor) (machine : Machine) : Course × Result :=
  match supervisor.runLifecycle ((Course.start machine).enter .init) with
  | (course, .finished (.error error)) =>
    ((course.enter .fatalAbort).report (.aborted error), .failed error)
  | (course, result) => (course, result)

/-- A run in a process of its own, beside which others listen on the given endpoints. -/
def runFresh (supervisor : Supervisor) (taken : List Net.Endpoint) : Course × Result :=
  match Readiness.register (.fresh taken) with
  | (machine, .error cause) => (.start machine, .failed (.readiness cause))
  | (machine, .ok ()) => supervisor.run machine

end Supervisor

end RoleDaemon
