import RoleDaemon.Supervisor.Course

/-!
# Waiting for the Services

Once all services run, the daemon waits until each of them has ended.  A request to shut down stops
all services, and so does the first service that fails; a service that ends well stops no other.  The
first failure is the result.

In which order the services end, and when the request comes, is given from outside as a list of
happenings.  One that cannot happen passes without effect.

Main definitions:
- `Happening`: a service ends, or the request to shut down comes
- `Join`: the services, and what has come up so far
- `Join.step`, `Join.run`: one happening, and all of them
- `Join.result?`: the result, once every service has ended
-/

namespace RoleDaemon

/-- What can happen while the daemon waits. -/
inductive Happening where
  /-- The request to shut down comes, perhaps by a signal. -/
  | shutdown (signal? : Option Log.Signal)
  /-- The service at a place of the list ends, and its result is seen. -/
  | ended (place : Nat)
  deriving DecidableEq, Repr

/-- The end of a service, as it was seen. -/
structure Ending where
  place : Nat
  role : Role
  result : Except LoopFault Unit

/-- The services that are waited for. -/
structure Join where
  course : Course
  handles : List Handle
  /-- The places of the services whose ends were not seen yet. -/
  pending : List Nat
  /-- The ends that were seen, in order. -/
  endings : List Ending
  /-- All services were asked to end. -/
  stopping : Bool
  firstError? : Option BootstrapError

namespace Join

def begin (course : Course) (handles : List Handle) : Join :=
  ⟨course, handles, List.range handles.length, [], false, none⟩

/-- The end of every service was seen. -/
def isDone (join : Join) : Bool := join.pending.isEmpty

/-- Looks whether the request to shut down has come, unless the services were asked to end before. -/
def poll (join : Join) : Join :=
  if join.stopping then join
  else { join with course := join.course.act .shutdownPolled join.course.machine }

/-- Asks all services to end, unless that was done before. -/
def stopOnce (join : Join) : Join :=
  if join.stopping then join
  else
    let (course, handles) := join.course.stopAll join.handles
    { join with course, handles, stopping := true }

/-- Reports the signal that the request came by, where it came by one. -/
def hear (course : Course) : Option Log.Signal → Course
  | some signal => course.report (.signalReceived signal)
  | none => course

/-- The request to shut down is seen, unless the services were asked to end before.  It may still be
    seen when the last service has just ended. -/
def shutDown (join : Join) (signal? : Option Log.Signal) : Join :=
  if join.stopping then join
  else
    let heard := hear join.course signal?
    { join with
      course := (heard.act .shutdownSeen heard.machine).report .shutdownRequested }.stopOnce

/-- Why a service that ended badly has failed. -/
def causeOf : LoopFault → Cause
  | .failed cause => cause
  | .panicked task message => .ofMessage ("service wait task failed: " ++ panicText task message)

/-- The result of a service is seen: a failure stops the others, and the first one is kept. -/
def conclude (join : Join) (role : Role) (result : Except LoopFault Unit) : Join :=
  match result with
  | .ok () => { join with course := join.course.report (.serviceStopped role) }
  | .error fault =>
    let cause := causeOf fault
    let stopped :=
      { join with course := join.course.report (.serviceFailed role cause) }.stopOnce
    { stopped with firstError? := stopped.firstError?.or (some (.serviceFailed role cause)) }

/-- The end of the service at a place is seen, and what it leaves behind. -/
def see (join : Join) (place : Nat) (handle : Handle) (machine : Machine)
    (result : Except LoopFault Unit) : Join :=
  { join with
    course := join.course.act (.joined handle.role) machine
    handles := join.handles.set place handle
    pending := join.pending.erase place
    endings := join.endings ++ [⟨place, handle.role, result⟩] }

/-- The service at a place of the list ends, where it can. -/
def complete (join : Join) (place : Nat) : Join :=
  if place ∈ join.pending then
    match join.handles[place]? with
    | none => join
    | some handle =>
      match handle.wait join.course.machine with
      | (_, _, none) => join
      | (handle, machine, some result) =>
        (join.see place handle machine result).conclude handle.role result
  else join

/-- One happening.  The request to shut down is looked for first, as long as it still matters. -/
def step (join : Join) : Happening → Join
  | .shutdown signal? => join.poll.shutDown signal?
  | .ended place => join.poll.complete place

/-- All happenings, in order. -/
def run (join : Join) (happenings : List Happening) : Join :=
  happenings.foldl step join

/-- The result, once every service has ended: the first failure, where there was one. -/
def result? (join : Join) : Option (Except BootstrapError Unit) :=
  if join.isDone then
    some (match join.firstError? with
      | some error => .error error
      | none => .ok ())
  else none

end Join

end RoleDaemon
