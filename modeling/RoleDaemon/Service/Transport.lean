import RoleDaemon.Service.Handle

/-!
# Transports

A transport binds the role services: it decides where they take their calls.  Binding opens nothing;
that is left to the start.

Main definitions:
- `Transport`: what binds a role to a port
- `Transport.http`: services on one network interface
- `Transport.scripted`: services in memory that follow a script
-/

namespace RoleDaemon

open Net

/-- What binds a role to a port. -/
structure Transport where
  bind : Role → UInt16 → Except Cause Binding

/-- What a service in memory does: it may fail to be bound or started, and its loop goes on in a given
    way. -/
structure Script where
  bindFault? : Option Cause
  startFault? : Option Cause
  loop : Loop

namespace Transport

/-- Services on the given network interface, whose loops go on as given. -/
def network (interface : Address) (loop : Role → Loop) : Transport :=
  ⟨fun role port => .ok ⟨.network ⟨interface, port⟩, loop role⟩⟩

/-- Services on the given network interface, which serve until they are stopped. -/
def http (interface : Address) : Transport := network interface fun _ => .serves

/-- Services in memory that follow a script. -/
def scripted (script : Role → Script) : Transport where
  bind role port :=
    match (script role).bindFault? with
    | some cause => .error cause
    | none => .ok ⟨.memory port (script role).startFault?, (script role).loop⟩

end Transport

end RoleDaemon
