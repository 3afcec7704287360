import RoleDaemon.Config.Basic
import RoleDaemon.Readiness
import RoleDaemon.Service.Execution

/-!
# The Runtime Environment

What every service of the daemon shares: the identity, the list of live tasks, the traced calls, and
the endpoint of the diagnostic pages.  It is built once, before any service, and taken down after all
of them.

Main definitions:
- `Environment`: the environment
- `Environment.init`: registers the metrics of the process, and starts to serve the pages
- `Environment.shutdown`: stops to serve the pages
-/

namespace RoleDaemon

open Metrics Net

/-- The pages are served at an endpoint, by a task. -/
structure WebServer where
  endpoint : Endpoint
  task : TaskRef
  deriving DecidableEq, Repr

/-- What the services of a daemon share. -/
structure Environment where
  identity : Identity
  /-- The place of the list of live tasks. -/
  tasks : Nat
  webServer? : Option WebServer
  deriving DecidableEq, Repr

namespace Environment

/-! ## §1 Metrics -/

def version : String := "0.1.0"

def processProperty (name help value : String) : Registry.Enrolment :=
  ⟨.property name help, some value⟩

/-- The properties of the process, in the order of registration. -/
def processProperties (identity : Identity) (config : Config) (now : Timestamp) :
    List Registry.Enrolment := [
  processProperty "recordserviced.service-id" "Cluster-unique service id" identity.text,
  processProperty "recordserviced.version" "Build version" version,
  processProperty "recordserviced.start-time" "Process start time" now.offset,
  processProperty "recordserviced.hostname" "Advertised hostname" config.hostname]

/-- The metrics without a value of their own: the counters, and the series of the traced calls. -/
def sharedFamilies : List Family :=
  Machine.tasksCreatedFamily :: Registry.traceFamilies ++ ExecutionService.families

/-- All metrics of the environment, in the order of registration. -/
def enrolments (identity : Identity) (config : Config) (now : Timestamp) :
    List Registry.Enrolment :=
  processProperties identity config now ++ sharedFamilies.map fun family => ⟨family, none⟩

/-! ## §2 Start and End -/

/-- The category and the name under which the server of the pages is listed. -/
def webServerTask : String × String := ("diagnostics", "webserver")

/-- Starts to serve the pages at an endpoint. -/
def startWebServer (identity : Identity) (endpoint : Endpoint) (now : Timestamp)
    (machine : Machine) : Machine × Except Cause Environment :=
  match machine.sockets.listen endpoint with
  | .error fault =>
    (machine, .error ⟨"Failed to bind diagnostic webserver on " ++ endpoint.text, [fault.message]⟩)
  | .ok (listener, sockets) =>
    let (tasks, machine) := { machine with sockets }.addTaskList
    let (task, machine) := machine.startTask tasks webServerTask.1 webServerTask.2 now
    (machine.report (.webserverListening listener), .ok ⟨identity, tasks, some ⟨listener, task⟩⟩)

/-- Builds the environment: registers its metrics, and starts to serve the pages, unless they are
    disabled. -/
def init (identity : Identity) (config : Config) (now : Timestamp) (machine : Machine) :
    Machine × Except Cause Environment :=
  match machine.enroll (enrolments identity config now) with
  | (machine, .error cause) => (machine, .error cause)
  | (machine, .ok ()) =>
    if config.webserver.enabled then
      startWebServer identity ⟨config.webserver.interface, config.webserver.port⟩ now machine
    else
      let (tasks, machine) := machine.addTaskList
      (machine.report .webserverDisabled, .ok ⟨identity, tasks, none⟩)

/-- Stops to serve the pages, where they are served. -/
def shutdown (environment : Environment) (machine : Machine) : Environment × Machine :=
  match environment.webServer? with
  | none => (environment, machine)
  | some server =>
    let closed := { machine with sockets := machine.sockets.close server.endpoint }
    ({ environment with webServer? := none },
      (closed.finishTask server.task).report .webserverStopped)

def service (environment : Environment) : ExecutionService := ⟨environment.identity⟩

end Environment

end RoleDaemon
