import RoleDaemon.BootstrapError
import RoleDaemon.Hostname

/-!
# Configuration

The settings of a daemon, which are fixed once it starts, and the checks that they have to pass.

Main definitions:
- `Config`: the settings
- `Config.default`: the settings of a daemon that nobody configured
- `Config.validate`: the roles that a configuration enables, or what is wrong with it
-/

namespace RoleDaemon

open Net

/-! ## §1 Settings -/

/-- The settings of the diagnostic endpoint. -/
structure WebserverConfig where
  enabled : Bool
  interface : Address
  port : UInt16
  deriving DecidableEq, Repr

/-- The settings that the subsystem steps use. -/
structure SubsystemConfig where
  /-- How much the code generator optimizes; the backend knows the levels 0 to 3. -/
  codegenOptLevel : UInt8
  /-- Where the storage client finds its configuration. -/
  storageConfDir : Option String
  /-- Whether the table bindings are loaded. -/
  hbaseEnabled : Bool
  /-- The write buffer of the table writer. -/
  hbaseWriteBufferBytes : UInt64
  /-- What the frontend loads; a name `*` at the end stands for everything in its directory. -/
  frontendClasspath : List String
  deriving DecidableEq, Repr

/-- The settings of a daemon. -/
structure Config where
  plannerPort : UInt16
  workerPort : UInt16
  /-- The name under which the daemon is known to its cluster. -/
  hostname : String
  /-- Where the listeners of the roles are. -/
  rpcInterface : Address
  webserver : WebserverConfig
  subsystems : SubsystemConfig
  deriving DecidableEq, Repr

/-! ## §2 Defaults -/

/-- The diagnostic endpoint is on, at port 11050 of every local address. -/
def WebserverConfig.default : WebserverConfig where
  enabled := true
  interface := .v4 .unspecified
  port := 11050

/-- Optimization level 2, a write buffer of two mebibytes, and nothing else. -/
def SubsystemConfig.default : SubsystemConfig where
  codegenOptLevel := 2
  storageConfDir := none
  hbaseEnabled := false
  hbaseWriteBufferBytes := 2097152
  frontendClasspath := []

/-- Both roles, at ports 12050 and 13050 of every local address. -/
def Config.default (hostname : String) : Config where
  plannerPort := 12050
  workerPort := 13050
  hostname := hostname
  rpcInterface := .v4 .unspecified
  webserver := .default
  subsystems := .default

/-! ## §3 Validation -/

/-- The roles that the configuration enables.  At least one role has a port, and the host name is
    acceptable; the roles are looked at first. -/
def Config.validate (config : Config) : Except BootstrapError EnabledRoles :=
  match EnabledRoles.ofPorts? config.plannerPort config.workerPort with
  | none => .error .noRoleEnabled
  | some roles =>
    match Hostname.check config.hostname with
    | .error fault => .error (.invalidConfig fault.message)
    | .ok () => .ok roles

end RoleDaemon
