import RoleDaemon.Config.Expansion
import RoleDaemon.Config.Format
import RoleDaemon.Files.Tree

/-!
# Loading a Configuration

A configuration is made up in layers: the defaults, then a file if one is named, then what was given
directly.  In a configuration that a file took part in, the host name and the storage directory are
expanded before the last layer is put on.

Main definitions:
- `Overrides`: the settings that were given directly
- `Host`: what the surroundings of the process contribute
- `Config.load`: the configuration of all layers
- `LoadError`: why there is none
-/

namespace RoleDaemon

open Net Text

/-! ## §1 Layers -/

/-- Settings that were given directly and win over the file. -/
structure Overrides where
  plannerPort : Option UInt16
  workerPort : Option UInt16
  hostname : Option String
  rpcInterface : Option Address
  webserverPort : Option UInt16
  webserverInterface : Option Address
  /-- Turns the diagnostic endpoint off; it cannot be turned on. -/
  disableWebserver : Bool
  storageConfDir : Option String
  /-- Turns the table bindings on; they cannot be turned off. -/
  hbaseEnabled : Bool
  codegenOptLevel : Option UInt8
  frontendClasspath : Option (List String)
  deriving DecidableEq, Repr

/-- No setting was given directly. -/
def Overrides.none : Overrides where
  plannerPort := .none
  workerPort := .none
  hostname := .none
  rpcInterface := .none
  webserverPort := .none
  webserverInterface := .none
  disableWebserver := false
  storageConfDir := .none
  hbaseEnabled := false
  codegenOptLevel := .none
  frontendClasspath := .none

/-- Puts the given settings on top of a configuration. -/
def Config.override (config : Config) (o : Overrides) : Config where
  plannerPort := o.plannerPort.getD config.plannerPort
  workerPort := o.workerPort.getD config.workerPort
  hostname := o.hostname.getD config.hostname
  rpcInterface := o.rpcInterface.getD config.rpcInterface
  webserver := {
    enabled := config.webserver.enabled && !o.disableWebserver
    interface := o.webserverInterface.getD config.webserver.interface
    port := o.webserverPort.getD config.webserver.port }
  subsystems := {
    codegenOptLevel := o.codegenOptLevel.getD config.subsystems.codegenOptLevel
    storageConfDir := o.storageConfDir.or config.subsystems.storageConfDir
    hbaseEnabled := config.subsystems.hbaseEnabled || o.hbaseEnabled
    hbaseWriteBufferBytes := config.subsystems.hbaseWriteBufferBytes
    frontendClasspath := o.frontendClasspath.getD config.subsystems.frontendClasspath }

/-- Expands the host name and the storage directory. -/
def Config.expanded (vars : Variables) (config : Config) : Config :=
  { config with
    hostname := expand vars config.hostname
    subsystems := { config.subsystems with
      storageConfDir := config.subsystems.storageConfDir.map (expand vars) } }

/-- The names of the variables that the expansion of a configuration looks up. -/
def Config.references (config : Config) : List String :=
  let texts := config.hostname :: config.subsystems.storageConfDir.toList
  texts.flatMap fun text => (RoleDaemon.references text.toList).map String.ofList

/-! ## §2 Surroundings -/

/-- What the process finds around it: its environment, the files, and the name that the operating
    system has for the machine. -/
structure Host where
  vars : Variables
  files : FileTree
  name : Option String
  deriving Repr

/-- The host name of a daemon that is given none: the exported name, or else the machine's, without
    the blanks around it; a blank name does not count. -/
def Host.defaultHostname (host : Host) : String :=
  let candidates := [host.vars.get? "HOSTNAME", host.name].filterMap fun name => name.map trim
  (candidates.find? (!·.isEmpty)).getD "localhost"

/-! ## §3 Loading -/

/-- Why no configuration could be loaded. -/
inductive LoadError where
  | unreadable (path : String) (fault : FileFault)
  | malformed (path : String) (fault : Json.Fault)
  deriving DecidableEq, Repr

def LoadError.cause : LoadError → Cause
  | .unreadable path fault =>
    (Cause.ofMessage fault.message).context ("Failed to read config file " ++ path)
  | .malformed path fault =>
    (Cause.ofMessage fault.message).context ("Failed to parse config file " ++ path)

/-- The configuration that the file at the path gives. -/
def Config.ofFile (host : Host) (path : String) : Except LoadError Config :=
  match host.files.readText path with
  | .error fault => .error (.unreadable path fault)
  | .ok s =>
    match Config.parse host.defaultHostname s with
    | .error fault => .error (.malformed path fault)
    | .ok config => .ok (config.expanded host.vars)

/-- The configuration of all layers. -/
def Config.load (host : Host) (path? : Option String) (overrides : Overrides) :
    Except LoadError Config :=
  match path? with
  | none => .ok ((Config.default host.defaultHostname).override overrides)
  | some path => (Config.ofFile host path).map (·.override overrides)

end RoleDaemon
