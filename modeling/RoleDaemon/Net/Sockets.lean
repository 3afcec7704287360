import RoleDaemon.Net.Address

/-!
# Listening Sockets

Which endpoints are listened on.  Two listeners with the same port must have addresses that do not
overlap, ports below 1024 are reserved, and port 0 stands for a free port of the system's choice.

Main definitions:
- `Sockets`: the endpoints that are listened on
- `Sockets.listen`: starts to listen on an endpoint
- `Sockets.close`: stops it
-/

namespace RoleDaemon.Net

/-- The address stands for all addresses of its family. -/
def Address.isAny : Address → Bool
  | .v4 address => address.a == 0 && address.b == 0 && address.c == 0 && address.d == 0
  | .v6 address => address.groups.all (· == 0)

/-- Listening on the first address includes the second one; the longer family includes the shorter. -/
def Address.includes (a b : Address) : Bool :=
  a == b || (a.isAny && match a, b with
    | .v4 _, .v6 _ => false
    | _, _ => true)

/-- No listener on the one address leaves room for one on the other. -/
def Address.overlaps (a b : Address) : Bool :=
  a.includes b || b.includes a

/-- Why an endpoint cannot be listened on. -/
inductive SocketFault where
  /-- Another listener has the port at an overlapping address. -/
  | inUse
  /-- The port is reserved. -/
  | denied
  deriving DecidableEq, Repr

/-- The wording of a fault. -/
def SocketFault.message : SocketFault → String
  | inUse => "Address already in use (os error 98)"
  | denied => "Permission denied (os error 13)"

/-- The endpoints that are listened on. -/
structure Sockets where
  listening : List Endpoint
  deriving DecidableEq, Repr

namespace Sockets

/-- Nothing listens. -/
def empty : Sockets := ⟨[]⟩

/-- A listener stands in the way of the endpoint. -/
def isTaken (sockets : Sockets) (endpoint : Endpoint) : Bool :=
  sockets.listening.any fun other =>
    other.port == endpoint.port && other.address.overlaps endpoint.address

/-- The ports that the system gives away by itself. -/
def ephemeralPorts : List UInt16 :=
  (List.range (61000 - 32768)).map fun n => (32768 + n).toUInt16

/-- The endpoint with its port, or with a free port where it has none. -/
def settle? (sockets : Sockets) (endpoint : Endpoint) : Option Endpoint :=
  if endpoint.port = 0 then
    (ephemeralPorts.map fun port => { endpoint with port }).find? fun e => !sockets.isTaken e
  else if sockets.isTaken endpoint then none
  else some endpoint

def listen (sockets : Sockets) (endpoint : Endpoint) : Except SocketFault (Endpoint × Sockets) :=
  if endpoint.port ≠ 0 ∧ endpoint.port < 1024 then .error .denied
  else
    match sockets.settle? endpoint with
    | some settled => .ok (settled, ⟨sockets.listening ++ [settled]⟩)
    | none => .error .inUse

/-- Stops to listen. -/
def close (sockets : Sockets) (endpoint : Endpoint) : Sockets :=
  ⟨sockets.listening.erase endpoint⟩

end Sockets

end RoleDaemon.Net
