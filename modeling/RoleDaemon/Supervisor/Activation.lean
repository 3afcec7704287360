import RoleDaemon.Service.Transport
import RoleDaemon.Supervisor.Course

/-!
# Activation of Roles

Every enabled role gets a handle, the planner first.  Handles are bound, and not started.

Main definitions:
- `Course.activate`: binds the roles, up to the first that cannot be bound
-/

namespace RoleDaemon

/-- Binds one handle for each role, in order, up to the first role that cannot be bound.  The loops of
    the services go to the given list of live tasks. -/
def Course.activate (transport : Transport) (tasks : Nat) (course : Course) :
    List (Role × UInt16) → Course × Except BootstrapError (List Handle)
  | [] => (course, .ok [])
  | (role, port) :: roles =>
    let course := course.report (.serviceCreating role port)
    match transport.bind role port with
    | .error cause =>
      (course.act (.bound role port false) course.machine, .error (.serviceStart role cause))
    | .ok binding =>
      let (course, rest) :=
        (course.act (.bound role port true) course.machine).activate transport tasks roles
      (course, rest.map (Handle.new role tasks binding :: ·))

end RoleDaemon
