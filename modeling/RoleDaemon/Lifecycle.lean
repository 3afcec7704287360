/-!
# The Life of a Daemon

The states that a daemon passes through.  A daemon starts in the first one, ends in one of the last
two, and takes none twice on the way, except that it enters the first one again when it is set going.

Main definitions:
- `Lifecycle`: the states
-/

namespace RoleDaemon

/-- Where a daemon stands in its life. -/
inductive Lifecycle where
  /-- Nothing is bound yet. -/
  | init
  /-- Every enabled role has a service. -/
  | servicesCreated
  /-- The services are being started. -/
  | starting
  /-- Every service accepts calls. -/
  | running
  /-- The daemon waits for its services to end. -/
  | blocked
  /-- Every service has ended. -/
  | terminated
  /-- A fatal error came up. -/
  | fatalAbort
  deriving DecidableEq, Repr, Inhabited

def Lifecycle.name : Lifecycle → String
  | init => "Init"
  | servicesCreated => "ServicesCreated"
  | starting => "Starting"
  | running => "Running"
  | blocked => "Blocked"
  | terminated => "Terminated"
  | fatalAbort => "FatalAbort"

end RoleDaemon
