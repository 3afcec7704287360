import RoleDaemon.Environment.Basic
import RoleDaemon.Lifecycle
import RoleDaemon.Machine
import RoleDaemon.Service.Handle
import RoleDaemon.Subsystem.Basic

/-!
# The Course of a Run

A run of the daemon is a sequence of moments.  Each moment has a deed, and the state of the process
right after it, so that what holds throughout a run can be said of all its moments.

Main definitions:
- `Deed`: what can be done in a moment
- `Course`: the moments so far, and the present state
- `Course.act`: one more moment
- `Course.enter`: goes on to the next state of the lifecycle
- `Course.stopAll`, `Course.waitAll`: ask services to end, and wait for their ends
-/

namespace RoleDaemon

/-- What is done in a moment. -/
inductive Deed where
  /-- A state of the lifecycle is entered. -/
  | entered (state : Lifecycle)
  /-- The steps of the subsystem bootstrap were run. -/
  | bootstrapped (executed : List Subsystem.Execution)
  /-- An event is reported, and nothing else happens. -/
  | reported
  /-- The environment was built, or could not be built. -/
  | environmentBuilt (succeeded : Bool)
  /-- The execution service was created. -/
  | serviceCreated
  /-- A role was bound to a port, or could not be bound. -/
  | bound (role : Role) (port : UInt16) (succeeded : Bool)
  /-- The start of a service returned. -/
  | started (role : Role) (succeeded : Bool)
  /-- A role was published as ready. -/
  | roleMarked (role : Role)
  /-- The whole daemon was published as ready. -/
  | serverMarked
  /-- It was looked whether the outside asks for the end. -/
  | shutdownPolled
  /-- The outside asked for the end. -/
  | shutdownSeen
  /-- A service was asked to end. -/
  | stopped (role : Role)
  /-- The end of a service was waited for. -/
  | joined (role : Role)
  /-- The environment was taken down. -/
  | environmentShutDown
  deriving DecidableEq, Repr

/-- A deed, and the state right after it. -/
structure Moment where
  deed : Deed
  machine : Machine

/-- The moments so far, the first one first, the present state, and the present state of the
    lifecycle. -/
structure Course where
  machine : Machine
  lifecycle : Lifecycle
  moments : List Moment
  /-- The environment, once it was built. -/
  environment? : Option Environment
  /-- The services that were started or stopped, as they were left. -/
  handles : List Handle

namespace Course

/-- The course in which nothing was done. -/
def start (machine : Machine) : Course := ⟨machine, .init, [], none, []⟩

/-- One more moment, after which the state is the given one. -/
def act (course : Course) (deed : Deed) (machine : Machine) : Course :=
  { course with machine, moments := course.moments ++ [⟨deed, machine⟩] }

def report (course : Course) (event : Log.Event) : Course :=
  course.act .reported (course.machine.report event)

/-- Goes on to the next state of the lifecycle. -/
def enter (course : Course) (next : Lifecycle) : Course :=
  { course.act (.entered next) (course.machine.report (.stateChanged course.lifecycle next)) with
    lifecycle := next }

def within (course : Course) (environment : Environment) : Course :=
  { course with environment? := some environment }

/-- Takes an environment down. -/
def leave (course : Course) (environment : Environment) : Course :=
  let (environment, machine) := environment.shutdown course.machine
  (course.act .environmentShutDown machine).within environment

/-- Leaves services as they are. -/
def keep (course : Course) (handles : List Handle) : Course := { course with handles }

/-- All that was done, in order. -/
def deeds (course : Course) : List Deed := course.moments.map (·.deed)

/-- Asks services to end, one after another. -/
def stopAll (course : Course) : List Handle → Course × List Handle
  | [] => (course, [])
  | handle :: handles =>
    let (rest, stopped) := (course.act (.stopped handle.role) course.machine).stopAll handles
    (rest, handle.stop :: stopped)

/-- Waits for the ends of services, one after another, whatever their results.  A service in memory
    that breaks off takes the waiting with it, and its fault is given. -/
def waitAll (course : Course) : List Handle → Course × List Handle × Option LoopFault
  | [] => (course, [], none)
  | handle :: handles =>
    match handle.wait course.machine with
    | (handle, machine, some (.error (.panicked task message))) =>
      (course.act (.joined handle.role) machine, handle :: handles, some (.panicked task message))
    | (handle, machine, _) =>
      let (course, waited, fault?) := (course.act (.joined handle.role) machine).waitAll handles
      (course, handle :: waited, fault?)

end Course

end RoleDaemon
