import RoleDaemon.Machine

/-!
# Readiness

Three flags tell other programs what is accepting calls: one for each role, and one for the whole
daemon, which is set only when every enabled role is ready.  No flag is ever cleared.

Main definitions:
- `Readiness.families`: the flags
- `Readiness.markRole`, `Readiness.markServer`: publish readiness
- `Readiness.snapshot`: the three flags
-/

namespace RoleDaemon.Readiness

open Metrics

def roleFlag : Role → String
  | .planner => "recordservice.running-planner"
  | .worker => "recordservice.running-worker"

/-- The flag of the whole daemon. -/
def serverFlag : String := "recordserviced.ready"

/-- The three flags as metrics. -/
def families : List Family := [
  .flag (roleFlag .planner) "The planner service is accepting RPCs",
  .flag (roleFlag .worker) "The worker service is accepting RPCs",
  .flag serverFlag "All enabled services are accepting RPCs"]

def register (machine : Machine) : Machine × Except Cause Unit :=
  machine.enroll (families.map fun family => ⟨family, none⟩)

/-- The role is ready. -/
def isRoleReady (metrics : Registry) (role : Role) : Bool :=
  (metrics.flag? (roleFlag role)).getD false

/-- The whole daemon is ready. -/
def isServerReady (metrics : Registry) : Bool :=
  (metrics.flag? serverFlag).getD false

/-- Publishes that a role accepts calls; the first time is reported. -/
def markRole (machine : Machine) (role : Role) : Machine :=
  let (first, metrics) := machine.metrics.setFlag (roleFlag role)
  let marked := { machine with metrics }
  if first then marked.report (.roleReady role) else marked

/-- The first of the enabled roles that is not ready. -/
def missing? (metrics : Registry) (roles : EnabledRoles) : Option Role :=
  (roles.toList.map (·.1)).find? fun role => !isRoleReady metrics role

/-- Publishes that the whole daemon is ready, which takes every enabled role to be ready. -/
def markServer (machine : Machine) (roles : EnabledRoles) : Except Cause Machine :=
  match missing? machine.metrics roles with
  | some role =>
    .error (.ofMessage ("cannot publish server readiness: " ++ role.name ++ " is not ready"))
  | none => .ok { machine with metrics := (machine.metrics.setFlag serverFlag).2 }

/-- The state of the three flags. -/
structure Snapshot where
  planner : Bool
  worker : Bool
  server : Bool
  deriving DecidableEq, Repr

/-- Reads the three flags. -/
def snapshot (metrics : Registry) : Snapshot :=
  ⟨isRoleReady metrics .planner, isRoleReady metrics .worker, isServerReady metrics⟩

/-- The three flags as JSON. -/
def Snapshot.toJson (snapshot : Snapshot) : Json :=
  .obj [("planner", .bool snapshot.planner), ("worker", .bool snapshot.worker),
    ("server_ready", .bool snapshot.server)]

end RoleDaemon.Readiness
