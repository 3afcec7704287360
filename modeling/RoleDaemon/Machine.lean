import RoleDaemon.Log.Event
import RoleDaemon.Metrics.Registry
import RoleDaemon.Net.Sockets
import RoleDaemon.Task.Registry

/-!
# The Process

Everything that the components of a daemon share and change: the sockets of the host, the metrics, the
lists of live tasks, and the log.

Main definitions:
- `Machine`: the shared state
- `Machine.report`: writes an event to the log
- `Machine.newTaskList`, `Machine.startTask`, `Machine.finishTask`: live tasks, which are counted
-/

namespace RoleDaemon

open Metrics Net

/-- The state that the components share.  There can be several lists of live tasks. -/
structure Machine where
  sockets : Sockets
  metrics : Metrics.Registry
  taskLists : List TaskRegistry
  /-- The reported events, the first one first. -/
  log : List Log.Event

/-- A task in one of the lists of live tasks. -/
structure TaskRef where
  list : Nat
  id : UInt64
  deriving DecidableEq, Repr

namespace Machine

/-- The state in which nothing has happened, with the endpoints that others listen on. -/
def fresh (taken : List Endpoint) : Machine := ⟨⟨taken⟩, .empty, [], []⟩

/-- Writes an event to the log. -/
def report (machine : Machine) (event : Log.Event) : Machine :=
  { machine with log := machine.log ++ [event] }

/-! ## §1 Metrics -/

/-- Registers metrics up to the first that fails. -/
def enroll (machine : Machine) (enrolments : List Registry.Enrolment) :
    Machine × Except Cause Unit :=
  let (metrics, result) := machine.metrics.enroll enrolments
  ({ machine with metrics }, result)

/-- Adds to a counter. -/
def increment (machine : Machine) (name : String) (amount : UInt64) : Machine :=
  { machine with metrics := machine.metrics.increment name amount }

/-! ## §2 Tasks -/

/-- The counter of all tasks that were started. -/
def tasksCreated : String := "thread-manager.total-threads-created"

/-- The counter of all tasks, as a metric. -/
def tasksCreatedFamily : Family :=
  .counter tasksCreated "Instrumented tasks started since process start"

/-- Adds an empty list of live tasks, without registering the counter, and tells its place. -/
def addTaskList (machine : Machine) : Nat × Machine :=
  (machine.taskLists.length, { machine with taskLists := machine.taskLists ++ [.empty] })

/-- Adds an empty list of live tasks, and tells its place. -/
def newTaskList (machine : Machine) : Machine × Except Cause Nat :=
  match machine.enroll [⟨tasksCreatedFamily, none⟩] with
  | (machine, .ok ()) => let (list, machine) := machine.addTaskList; (machine, .ok list)
  | (machine, .error cause) => (machine, .error cause)

def tasks (machine : Machine) (list : Nat) : TaskRegistry :=
  machine.taskLists[list]?.getD .empty

/-- Lists a task as live, and counts it. -/
def startTask (machine : Machine) (list : Nat) (category name : String) (now : Timestamp) :
    TaskRef × Machine :=
  let (id, tasks) := (machine.tasks list).start category name now
  (⟨list, id⟩,
    { machine with taskLists := machine.taskLists.set list tasks }.increment tasksCreated 1)

/-- Ends a task. -/
def finishTask (machine : Machine) (task : TaskRef) : Machine :=
  { machine with
    taskLists := machine.taskLists.modify task.list fun tasks => tasks.finish task.id }

end Machine

end RoleDaemon
