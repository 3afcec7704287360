import RoleDaemon.Config.Basic
import RoleDaemon.Log.Event

/-!
# Subsystem Bootstrap

The integrations of the daemon are set up by a list of named steps.  The steps run in order, each one
with the same settings, until one fails; none runs twice.

Main definitions:
- `Subsystem.Step`: a named step
- `Subsystem.run`: the steps up to the first failure
- `Subsystem.Report`: what a run leaves behind
-/

namespace RoleDaemon.Subsystem

/-- What a step does with the settings: what it reports on the way, and whether it succeeds. -/
structure Outcome where
  events : List Log.Event
  result : Except Cause Unit

/-- The outcome of a step that has nothing to report. -/
def Outcome.silent (result : Except Cause Unit) : Outcome := ⟨[], result⟩

/-- A named step. -/
structure Step where
  name : String
  init : SubsystemConfig → Outcome

/-- A step that was run, with the settings that it was given. -/
structure Execution where
  step : String
  config : SubsystemConfig
  deriving DecidableEq, Repr

/-- What a run leaves behind: the steps that were run, the events, and the names of the completed
    steps or the error of the first that failed. -/
structure Report where
  executed : List Execution
  events : List Log.Event
  result : Except BootstrapError (List String)

/-- Runs the steps in order, up to and including the first one that fails. -/
def run : List Step → SubsystemConfig → Report
  | [], _ => ⟨[], [], .ok []⟩
  | step :: steps, config =>
    let outcome := step.init config
    let begun := Log.Event.stepStarted step.name :: outcome.events
    match outcome.result with
    | .error cause => ⟨[⟨step.name, config⟩], begun, .error (.subsystem step.name cause)⟩
    | .ok () =>
      let rest := run steps config
      { executed := ⟨step.name, config⟩ :: rest.executed
        events := begun ++ Log.Event.stepDone step.name :: rest.events
        result := rest.result.map (step.name :: ·) }

end RoleDaemon.Subsystem
