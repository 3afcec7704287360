import RoleDaemon.BootstrapError
import RoleDaemon.Identity
import RoleDaemon.Lifecycle

/-!
# Log Events

What the daemon reports about its work.  Each event comes from one component, has a level, and is
worded as a message with fields.

Main definitions:
- `Log.Event`: the events
- `Log.Event.level`, `Log.Event.component`, `Log.Event.message`, `Log.Event.fields`: how an event is
  reported
-/

namespace RoleDaemon.Log

open Net Text

/-! ## §1 Levels and Components -/

/-- How much an event matters. -/
inductive Level where
  | error
  | warn
  | info
  | debug
  | trace
  deriving DecidableEq, Repr

def Level.name : Level → String
  | error => "ERROR"
  | warn => "WARN"
  | info => "INFO"
  | debug => "DEBUG"
  | trace => "TRACE"

/-- The place of a level in the order from the weightiest level to the lightest, from 1. -/
def Level.rank : Level → Nat
  | error => 1
  | warn => 2
  | info => 3
  | debug => 4
  | trace => 5

/-- The parts of the daemon that report events. -/
inductive Component where
  | process
  | activation
  | environment
  | readiness
  | subsystems
  | supervision
  | rpc
  deriving DecidableEq, Repr

/-- The name of a component in the log. -/
def Component.target : Component → String
  | process => "recordserviced"
  | activation => "recordserviced::activator"
  | environment => "recordserviced::environment"
  | readiness => "recordserviced::readiness"
  | subsystems => "recordserviced::subsystems"
  | supervision => "recordserviced::supervisor"
  | rpc => "recordserviced::transport::http"

/-- The requests of the outside to shut down. -/
inductive Signal where
  | interrupt
  | terminate
  deriving DecidableEq, Repr

/-! ## §2 Events -/

/-- What is reported. -/
inductive Event where
  | configurationFailed (cause : Cause)
  | configured (plannerPort workerPort : UInt16) (hostname : String)
  | endedCleanly
  | stateChanged (previous next : Lifecycle)
  | stepStarted (step : String)
  | stepDone (step : String)
  | storageDefaults
  | classpathVerified (entries : Nat)
  | identityGenerated (identity : Identity)
  | webserverDisabled
  | webserverListening (endpoint : Endpoint)
  | webserverStopped
  | serviceCreating (role : Role) (port : UInt16)
  | serviceListening (role : Role) (endpoint : Endpoint)
  | roleReady (role : Role)
  | serviceStarted (role : Role) (port : UInt16)
  | daemonStarted
  | signalReceived (signal : Signal)
  | shutdownRequested
  | serviceStopped (role : Role)
  | serviceFailed (role : Role) (cause : Cause)
  | servicesStopped
  | aborted (error : BootstrapError)
  | callFailed (role : Role) (method : String) (cause : Cause)
  deriving DecidableEq, Repr

namespace Event

/-- How much an event matters. -/
def level : Event → Level
  | configurationFailed _ | serviceFailed _ _ | aborted _ => .error
  | callFailed _ _ _ => .warn
  | stateChanged _ _ | stepStarted _ | storageDefaults | classpathVerified _ | roleReady _ => .debug
  | _ => .info

/-- Where an event comes from. -/
def component : Event → Component
  | configurationFailed _ | configured _ _ _ | endedCleanly => .process
  | stepStarted _ | stepDone _ | storageDefaults | classpathVerified _ => .subsystems
  | webserverDisabled | webserverListening _ | webserverStopped => .environment
  | serviceCreating _ _ => .activation
  | serviceListening _ _ | callFailed _ _ _ => .rpc
  | roleReady _ => .readiness
  | _ => .supervision

def message : Event → String
  | configurationFailed cause => "Failed to load configuration: " ++ cause.text
  | configured _ _ _ => "Starting recordserviced"
  | endedCleanly => "recordserviced shut down cleanly"
  | stateChanged _ _ => "Lifecycle transition"
  | stepStarted _ => "Initializing subsystem"
  | stepDone _ => "Subsystem initialized"
  | storageDefaults => "No storage configuration directory set, using client defaults"
  | classpathVerified _ => "Frontend classpath verified"
  | identityGenerated _ => "Generated service identity"
  | webserverDisabled => "Diagnostic webserver disabled"
  | webserverListening endpoint => "Diagnostic webserver listening on http://" ++ endpoint.text
  | webserverStopped => "Diagnostic webserver stopped"
  | serviceCreating _ _ => "Creating RPC service"
  | serviceListening _ endpoint => "RPC service listening on " ++ endpoint.text
  | roleReady _ => "Role readiness published"
  | serviceStarted _ _ => "RPC service started"
  | daemonStarted => "recordserviced has started"
  | signalReceived .interrupt => "Received Ctrl+C"
  | signalReceived .terminate => "Received SIGTERM"
  | shutdownRequested => "Shutdown requested, stopping RPC services"
  | serviceStopped _ => "RPC service stopped"
  | serviceFailed _ cause => "RPC service exited with error: " ++ cause.text
  | servicesStopped => "All RPC services stopped"
  | aborted error => "recordserviced did not start correctly, exiting. Error: " ++ error.message
  | callFailed _ _ cause => "RPC failed: " ++ cause.text

/-- The value of a field: a text to be shown as it is, or one to be shown in quotes. -/
inductive Value where
  | bare (text : String)
  | quoted (text : String)
  deriving DecidableEq, Repr

/-- The text of a field's value, without quotes. -/
def Value.text : Value → String
  | bare text => text
  | quoted text => text

/-- The fields of an event, in the order of the report. -/
def fields : Event → List (String × Value)
  | configured plannerPort workerPort hostname => [
      ("planner_port", .bare (decimalText plannerPort.toNat)),
      ("worker_port", .bare (decimalText workerPort.toNat)),
      ("hostname", .bare hostname)]
  | stateChanged previous next => [("from", .bare previous.name), ("to", .bare next.name)]
  | stepStarted step => [("step", .quoted step)]
  | stepDone step => [("step", .quoted step)]
  | classpathVerified entries => [("entries", .bare (decimalText entries))]
  | identityGenerated identity => [("service_id", .bare identity.text)]
  | serviceCreating role port => [
      ("role", .bare role.name), ("port", .bare (decimalText port.toNat))]
  | serviceListening role _ => [("role", .bare role.name)]
  | roleReady role => [("role", .bare role.name)]
  | serviceStarted role port => [
      ("role", .bare role.name), ("port", .bare (decimalText port.toNat))]
  | serviceStopped role => [("role", .bare role.name)]
  | serviceFailed role _ => [("role", .bare role.name)]
  | aborted error => [("step", .quoted error.step)]
  | callFailed role method _ => [("role", .bare role.name), ("method", .quoted method)]
  | _ => []

end Event

end RoleDaemon.Log
