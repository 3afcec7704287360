import RoleDaemon.Cli.Arguments
import RoleDaemon.Log.Filter
import RoleDaemon.Log.Line
import RoleDaemon.Subsystem.Defaults
import RoleDaemon.Supervisor.Run

/-!
# The Process

A process of the daemon reads its command line, loads its configuration, and runs until a signal ends
it.  What it writes is the log, or a message about its command line.

Main definitions:
- `Outcome`: what a process leaves behind
- `run`: a process with its command line and its surroundings
-/

namespace RoleDaemon.Cli

/-- What a process leaves behind: the lines that it wrote to the output, the first line of a message
    about its command line, and its exit status; a process that does not end has none. -/
structure Outcome where
  output : List String
  complaint? : Option String
  exitStatus? : Option UInt8
  deriving DecidableEq, Repr

/-- What the daemon is for, in the first line of the help. -/
def about : String := "Record service daemon running the planner and/or worker services"

/-- The exit status after a faulty command line. -/
def usageStatus : UInt8 := 2

/-- The exit status after an error. -/
def fatalStatus : UInt8 := 1

/-- The events of a run with a configuration, and its exit status.  The signal, if one comes at all,
    comes once the daemon waits for its services. -/
def runDaemon (host : Host) (config : Config) (now : Timestamp) (signal? : Option Log.Signal)
    (taken : List Net.Endpoint) : List Log.Event × Option UInt8 :=
  let ends : List Happening := [.ended 0, .ended 1]
  let supervisor : Supervisor :=
    { config
      steps := Subsystem.defaultSteps host.files
      transport := .http config.rpcInterface
      now
      happenings := match signal? with
        | some signal => .shutdown (some signal) :: ends
        | none => ends }
  let (course, result) := supervisor.runFresh taken
  let events :=
    .configured config.plannerPort config.workerPort config.hostname :: course.machine.log
  match result with
  | .finished (.ok ()) => (events ++ [.endedCleanly], some 0)
  | .finished (.error error) => (events, some error.exitCode)
  | _ => (events, none)

/-- The variables that a process looks up in any case. -/
def variableNames : List String :=
  ["RUST_LOG", "HOSTNAME"] ++ parameters.map (·.envName)

/-- A process with its command line and its surroundings, beside which others listen on the given
    endpoints. -/
def run (arguments : List String) (host : Host) (now : Timestamp) (signal? : Option Log.Signal)
    (taken : List Net.Endpoint) : Outcome :=
  let filter := Log.Filter.ofVariable (host.vars.get? "RUST_LOG")
  let log (events : List Log.Event) : List String := (events.filter filter.passes).map (·.line)
  match readArguments arguments host.vars with
  | .error .help => ⟨[about], none, some 0⟩
  | .error (.fault fault) => ⟨[], some ("error: " ++ fault.message), some usageStatus⟩
  | .ok settings =>
    match Config.load host settings.configFile? settings.overrides with
    | .error error => ⟨log [.configurationFailed error.cause], none, some fatalStatus⟩
    | .ok config =>
      let (events, status?) := runDaemon host config now signal? taken
      ⟨log events, none, status?⟩

end RoleDaemon.Cli
