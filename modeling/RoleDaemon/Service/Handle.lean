import RoleDaemon.Machine
import RoleDaemon.Text.Quoted

/-!
# Service Handles

A handle stands for the service of one role, from its binding to its end.  It is started once, on the
network or in memory; a second start is refused, also when the first one failed.  A stop may come
before or after the start, and is never lost.

Main definitions:
- `Binding`: where a service takes its calls, and how its loop goes on
- `Handle`: the service of a role
- `Handle.start`, `Handle.stop`, `Handle.wait`: the operations
- `Handle.endLoop`: the loop comes to its end
-/

namespace RoleDaemon

open Net

/-! ## §1 Loops -/

/-- How a service loop can fail. -/
inductive LoopFault where
  /-- The loop returned an error. -/
  | failed (cause : Cause)
  /-- The loop broke off with a message. -/
  | panicked (task : Nat) (message : String)
  deriving DecidableEq, Repr

/-- The report about a task that broke off. -/
def panicText (task : Nat) (message : String) : String :=
  "task " ++ Text.decimalText task ++ " panicked with message " ++ Text.quoted message

/-- How a service loop goes on once it was started: until it is stopped, or to its end by itself, and
    with which result. -/
structure Loop where
  untilStopped : Bool
  result : Except LoopFault Unit

/-- The loop that ends well once it is stopped. -/
def Loop.serves : Loop := ⟨true, .ok ()⟩

/-! ## §2 Handles -/

/-- Where a service takes its calls. -/
inductive Seat where
  /-- At an endpoint of the network. -/
  | network (endpoint : Endpoint)
  /-- In memory, under the given port; starting may fail. -/
  | memory (port : UInt16) (startFault? : Option Cause)
  deriving DecidableEq, Repr

/-- What a service is bound to: where it takes its calls, and how its loop goes on. -/
structure Binding where
  seat : Seat
  loop : Loop

/-- What a running service holds. -/
structure Running where
  port : UInt16
  listener? : Option Endpoint
  task? : Option TaskRef
  deriving DecidableEq, Repr

/-- Where a handle stands. -/
inductive Phase where
  /-- It was not started yet. -/
  | idle
  /-- The start failed. -/
  | refused
  /-- The loop goes on. -/
  | running (state : Running)
  /-- The loop has ended. -/
  | ended (port : UInt16)
  deriving DecidableEq, Repr

/-- The service of a role. -/
structure Handle where
  role : Role
  /-- The place of the list of live tasks that the loop goes to. -/
  tasks : Nat
  binding : Binding
  phase : Phase
  /-- The loop was asked to end. -/
  stopRequested : Bool
  /-- Somebody waited for the end of the loop. -/
  awaited : Bool

/-- What is told about a handle. -/
structure Handle.Status where
  role : Role
  port : UInt16
  isRunning : Bool
  deriving DecidableEq, Repr

namespace Handle

/-- The handle of a service that was just bound. -/
def new (role : Role) (tasks : Nat) (binding : Binding) : Handle :=
  ⟨role, tasks, binding, .idle, false, false⟩

/-- The port that the service takes its calls on, 0 as long as it was not started. -/
def boundPort (handle : Handle) : UInt16 :=
  match handle.phase with
  | .running state => state.port
  | .ended port => port
  | _ => 0

/-- The loop goes on. -/
def isRunning (handle : Handle) : Bool :=
  match handle.phase with
  | .running _ => true
  | _ => false

/-- What is told about the handle. -/
def status (handle : Handle) : Status := ⟨handle.role, handle.boundPort, handle.isRunning⟩

/-! ## §3 Operations -/

/-- The category under which service loops are listed. -/
def category : String := "rpc"

/-- Starts to listen on an endpoint of the network, and lists the loop as a live task. -/
def startNetwork (handle : Handle) (endpoint : Endpoint) (now : Timestamp) (machine : Machine) :
    Handle × Machine × Except Cause Unit :=
  match machine.sockets.listen endpoint with
  | .error fault =>
    ({ handle with phase := .refused }, machine,
      .error ⟨"Failed to bind " ++ handle.role.name ++ " service on " ++ endpoint.text,
        [fault.message]⟩)
  | .ok (listener, sockets) =>
    let (task, machine) :=
      { machine with sockets }.startTask handle.tasks category handle.role.name now
    ({ handle with phase := .running ⟨listener.port, some listener, some task⟩ },
      machine.report (.serviceListening handle.role listener), .ok ())

/-- Starts the service, which is possible once. -/
def start (handle : Handle) (now : Timestamp) (machine : Machine) :
    Handle × Machine × Except Cause Unit :=
  match handle.phase with
  | .idle =>
    match handle.binding.seat with
    | .network endpoint => handle.startNetwork endpoint now machine
    | .memory _ (some fault) => ({ handle with phase := .refused }, machine, .error fault)
    | .memory port none =>
      ({ handle with phase := .running ⟨port, none, none⟩ }, machine, .ok ())
  | _ =>
    (handle, machine, .error (.ofMessage (handle.role.name ++ " service already started")))

/-- Asks the loop to end. -/
def stop (handle : Handle) : Handle := { handle with stopRequested := true }

/-- The loop can come to its end: it goes on, and does not wait for a stop. -/
def canEnd (handle : Handle) : Bool :=
  handle.isRunning && (!handle.binding.loop.untilStopped || handle.stopRequested)

/-- Gives back what a running service holds. -/
def release (machine : Machine) (state : Running) : Machine :=
  let closed := match state.listener? with
    | some listener => { machine with sockets := machine.sockets.close listener }
    | none => machine
  match state.task? with
  | some task => closed.finishTask task
  | none => closed

/-- The loop comes to its end, where it can. -/
def endLoop (handle : Handle) (machine : Machine) : Handle × Machine :=
  match handle.phase with
  | .running state =>
    if handle.canEnd then ({ handle with phase := .ended state.port }, release machine state)
    else (handle, machine)
  | _ => (handle, machine)

/-- How the end of the loop is told to whoever waits for it.  A loop on the network runs in a task of
    its own, so that its breaking off is an error like others. -/
def outcome (handle : Handle) : Except LoopFault Unit :=
  match handle.binding.seat, handle.binding.loop.result with
  | .network _, .error (.failed cause) =>
    .error (.failed (cause.context (handle.role.name ++ " service loop failed")))
  | .network _, .error (.panicked task message) =>
    .error (.failed ⟨handle.role.name ++ " service task panicked", [panicText task message]⟩)
  | _, result => result

/-- Nobody has to wait: the service was never started, or its end was waited for before. -/
def isSettled (handle : Handle) : Bool :=
  handle.awaited || match handle.phase with
    | .idle | .refused => true
    | _ => false

/-- Waits for the end of the loop, and gives its result: at once where nobody has to wait, and never
    where the loop does not end. -/
def wait (handle : Handle) (machine : Machine) :
    Handle × Machine × Option (Except LoopFault Unit) :=
  if handle.isSettled then (handle, machine, some (.ok ()))
  else
    let (handle, machine) := handle.endLoop machine
    ({ handle with awaited := true }, machine,
      if handle.isRunning then none else some handle.outcome)

end Handle

end RoleDaemon
