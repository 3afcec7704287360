/-!
# Roles

A daemon serves the planner role, the worker role, or both.  Each enabled role has a port of its own,
and port 0 means that the role is not enabled.

Main definitions:
- `Role`: the two roles
- `EnabledRoles`: which roles are enabled, with their ports
- `EnabledRoles.ofPorts?`: the roles that two configured ports enable
-/

namespace RoleDaemon

/-! ## §1 Roles -/

/-- A network service that the daemon hosts. -/
inductive Role where
  /-- Turns requests into tasks. -/
  | planner
  /-- Runs assigned tasks. -/
  | worker
  deriving DecidableEq, Repr, Inhabited

namespace Role

/-- The name of a role, in lower case. -/
def name : Role → String
  | planner => "planner"
  | worker => "worker"

/-- The role with the given name. -/
def ofName? (s : String) : Option Role :=
  if s = "planner" then some planner else if s = "worker" then some worker else none

theorem name_injective {r s : Role} (h : r.name = s.name) : r = s := by
  revert h
  cases r <;> cases s <;> decide

end Role

/-! ## §2 Enabled Roles -/

/-- The enabled roles with their ports; at least one role is enabled. -/
inductive EnabledRoles where
  | plannerOnly (port : UInt16)
  | workerOnly (port : UInt16)
  | both (planner worker : UInt16)
  deriving DecidableEq, Repr

namespace EnabledRoles

/-- The roles that the two ports enable, where 0 disables a role; none when both are 0. -/
def ofPorts? (planner worker : UInt16) : Option EnabledRoles :=
  if planner = 0 then
    if worker = 0 then none else some (workerOnly worker)
  else if worker = 0 then some (plannerOnly planner)
  else some (both planner worker)

/-- The enabled roles with their ports, the planner first: the order of starting. -/
def toList : EnabledRoles → List (Role × UInt16)
  | plannerOnly port => [(.planner, port)]
  | workerOnly port => [(.worker, port)]
  | both planner worker => [(.planner, planner), (.worker, worker)]

def port? (roles : EnabledRoles) (role : Role) : Option UInt16 :=
  (roles.toList.find? (·.1 = role)).map (·.2)

/-- The role is enabled. -/
def contains (roles : EnabledRoles) (role : Role) : Bool :=
  (roles.port? role).isSome

/-- The port that names the daemon: the planner's, or the worker's where no planner runs. -/
def primaryPort : EnabledRoles → UInt16
  | plannerOnly port => port
  | workerOnly port => port
  | both planner _ => planner

end EnabledRoles

end RoleDaemon
