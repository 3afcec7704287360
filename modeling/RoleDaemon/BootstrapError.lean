import RoleDaemon.Cause
import RoleDaemon.Role

/-!
# Fatal Errors

Every error that ends the daemon belongs to one stage of its life, and every one ends the process
with the same exit status.

Main definitions:
- `BootstrapError`: the fatal errors
- `BootstrapError.message`: their wording
- `BootstrapError.step`: the stage that an error comes from
-/

namespace RoleDaemon

/-- An error that ends the daemon. -/
inductive BootstrapError where
  /-- Neither role has a port. -/
  | noRoleEnabled
  /-- The configuration is not usable, for the given reason. -/
  | invalidConfig (reason : String)
  /-- A step of the subsystem bootstrap failed. -/
  | subsystem (step : String) (cause : Cause)
  /-- The runtime environment could not be built. -/
  | environment (cause : Cause)
  /-- The service of a role could not be bound or started. -/
  | serviceStart (role : Role) (cause : Cause)
  /-- The running service of a role ended with an error. -/
  | serviceFailed (role : Role) (cause : Cause)
  /-- Readiness could not be registered or published. -/
  | readiness (cause : Cause)
  deriving DecidableEq, Repr

namespace BootstrapError

/-- The stage that the error comes from. -/
def step : BootstrapError → String
  | noRoleEnabled => "configuration"
  | invalidConfig _ => "configuration"
  | subsystem step _ => step
  | environment _ => "environment"
  | serviceStart _ _ => "service-start"
  | serviceFailed _ _ => "service-loop"
  | readiness _ => "readiness"

/-- The cause below the error, where it has one. -/
def cause? : BootstrapError → Option Cause
  | noRoleEnabled => none
  | invalidConfig _ => none
  | subsystem _ cause => some cause
  | environment cause => some cause
  | serviceStart _ cause => some cause
  | serviceFailed _ cause => some cause
  | readiness cause => some cause

/-- The role whose service the error is about, where it is about one. -/
def role? : BootstrapError → Option Role
  | serviceStart role _ => some role
  | serviceFailed role _ => some role
  | _ => none

/-- The wording of the error, with the whole chain of its cause. -/
def message : BootstrapError → String
  | noRoleEnabled =>
    "Cannot start recordserviced that is not running the planner or worker services"
  | invalidConfig reason => "Invalid configuration: " ++ reason
  | subsystem step cause => "Subsystem '" ++ step ++ "' failed to initialize: " ++ cause.text
  | environment cause => "Runtime environment failed to initialize: " ++ cause.text
  | serviceStart role cause =>
    "The " ++ role.name ++ " service failed to start: " ++ cause.text
  | serviceFailed role cause =>
    "The " ++ role.name ++ " service exited with an error: " ++ cause.text
  | readiness cause => "Failed to publish readiness: " ++ cause.text

/-- The exit status of the process, the same for every error. -/
def exitCode (_ : BootstrapError) : UInt8 := 1

end BootstrapError

end RoleDaemon
