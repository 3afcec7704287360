import RoleDaemon.Config.Basic
import RoleDaemon.Json.Read
import RoleDaemon.Json.Value

/-!
# Configuration Files

A configuration is written as a JSON object with one member for each setting.  A file may leave out
any setting; the default stands for it.

Main definitions:
- `Config.toJson`: the written form
- `Config.record`: the fields of a file
- `Config.parse`: the configuration that a file gives
-/

namespace RoleDaemon

open Net

/-! ## §1 Writing -/

/-- The written form of the settings of the diagnostic endpoint. -/
def WebserverConfig.toJson (config : WebserverConfig) : Json :=
  .obj [
    ("enabled", .bool config.enabled),
    ("interface", .str config.interface.text),
    ("port", .nat config.port.toNat)]

/-- The written form of the settings of the subsystem steps. -/
def SubsystemConfig.toJson (config : SubsystemConfig) : Json :=
  .obj [
    ("codegen_opt_level", .nat config.codegenOptLevel.toNat),
    ("storage_conf_dir", .ofOption (config.storageConfDir.map .str)),
    ("hbase_enabled", .bool config.hbaseEnabled),
    ("hbase_write_buffer_bytes", .nat config.hbaseWriteBufferBytes.toNat),
    ("frontend_classpath", .arr (config.frontendClasspath.map .str))]

/-- The written form of a configuration. -/
def Config.toJson (config : Config) : Json :=
  .obj [
    ("planner_port", .nat config.plannerPort.toNat),
    ("worker_port", .nat config.workerPort.toNat),
    ("hostname", .str config.hostname),
    ("rpc_interface", .str config.rpcInterface.text),
    ("webserver", config.webserver.toJson),
    ("subsystems", config.subsystems.toJson)]

/-! ## §2 Reading -/

def readAddress : Json.Reader Address :=
  Json.Reader.parsed "IP address" fun s =>
    match Address.parse? s with
    | some address => .ok address
    | none => .error "invalid IP address syntax"

def readPath : Json.Reader String :=
  Json.Reader.string "path string"

/-- The fields of the settings of the diagnostic endpoint. -/
def WebserverConfig.record : Json.Record WebserverConfig where
  expected := "struct WebserverConfig"
  fields := [
    .of "enabled" false Json.Reader.bool fun v c => { c with enabled := v },
    .of "interface" false readAddress fun v c => { c with interface := v },
    .of "port" false Json.Reader.uint16 fun v c => { c with port := v }]

/-- The fields of the settings of the subsystem steps. -/
def SubsystemConfig.record : Json.Record SubsystemConfig where
  expected := "struct SubsystemConfig"
  fields := [
    .of "codegen_opt_level" false Json.Reader.uint8 fun v c => { c with codegenOptLevel := v },
    .of "storage_conf_dir" false (Json.Reader.optional readPath)
      fun v c => { c with storageConfDir := v },
    .of "hbase_enabled" false Json.Reader.bool fun v c => { c with hbaseEnabled := v },
    .of "hbase_write_buffer_bytes" false Json.Reader.uint64
      fun v c => { c with hbaseWriteBufferBytes := v },
    .of "frontend_classpath" false (Json.Reader.list "a sequence" readPath)
      fun v c => { c with frontendClasspath := v }]

/-- The fields of a configuration. -/
def Config.record : Json.Record Config where
  expected := "struct DaemonConfig"
  fields := [
    .of "planner_port" false Json.Reader.uint16 fun v c => { c with plannerPort := v },
    .of "worker_port" false Json.Reader.uint16 fun v c => { c with workerPort := v },
    .of "hostname" false (Json.Reader.string "a string") fun v c => { c with hostname := v },
    .of "rpc_interface" false readAddress fun v c => { c with rpcInterface := v },
    .of "webserver" false (WebserverConfig.record.read .default)
      fun v c => { c with webserver := v },
    .of "subsystems" false (SubsystemConfig.record.read .default)
      fun v c => { c with subsystems := v }]

/-- The configuration that the text of a file gives, with `hostname` as the default host name. -/
def Config.parse (hostname : String) (s : String) : Except Json.Fault Config :=
  match Config.record.document (.default hostname) s with
  | .ok config => .ok config
  | .error e => .error e.fault

end RoleDaemon
