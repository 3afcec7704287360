import RoleDaemon.Net.Address

/-!
# Service Identities

A daemon is named in its cluster by its host and its primary port.  An address of the longer family
is written in its one spelling and in brackets, so that the last colon of an identity always stands
before the port.

Main definitions:
- `Identity`: the name of a daemon
- `Identity.generate`: the identity of a host name and a port
-/

namespace RoleDaemon

open Text Net

/-- The name of a daemon in its cluster. -/
structure Identity where
  text : String
  deriving DecidableEq, Repr

namespace Identity

def serviceName : String := "recordserviced"

/-- A host name and a port; a host name that spells an address of the longer family is replaced by
    that address in brackets. -/
def networkAddress (hostname : String) (port : UInt16) : List Char :=
  match Address.parse? hostname with
  | some (.v6 address) => hostPort true address.chars port
  | _ => hostPort false hostname.toList port

/-- The identity of the daemon with the given host name and primary port. -/
def generate (hostname : String) (primaryPort : UInt16) : Identity :=
  ⟨String.ofList (serviceName.toList ++ '@' :: networkAddress hostname primaryPort)⟩

end Identity

end RoleDaemon
