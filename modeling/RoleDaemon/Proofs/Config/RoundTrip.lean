import RoleDaemon.Proofs.Config.Layers
import RoleDaemon.Proofs.Net.Address

/-!
# Configurations Written and Loaded

A configuration that is written to a file is loaded from it again, with nothing given directly.

## Architecture

- `given`: the settings of a configuration, all of them given
- `isWritten_toJson`, `isFile_toJson`: the written form gives these settings, one lemma for each record
- `expanded_of_plain`, `override_none`: the layers above the file leave it as it is

Main statements:
- `Config.load_toJson`: a configuration is loaded from its written form
-/

namespace RoleDaemon

open Json Net

/-! ## §1 Configurations in Their Written Form -/

/-- All settings of the diagnostic endpoint. -/
def WebserverConfig.given (config : WebserverConfig) : Given where
  enabled := some config.enabled
  interface := some config.interface
  port := some config.port

/-- All settings of the subsystem steps. -/
def SubsystemConfig.given (config : SubsystemConfig) : Given where
  codegenOptLevel := some config.codegenOptLevel
  storageConfDir := some config.storageConfDir
  hbaseEnabled := some config.hbaseEnabled
  hbaseWriteBufferBytes := some config.hbaseWriteBufferBytes
  frontendClasspath := some config.frontendClasspath

/-- All settings. -/
def Config.given (config : Config) : Given where
  plannerPort := some config.plannerPort
  workerPort := some config.workerPort
  hostname := some config.hostname
  rpcInterface := some config.rpcInterface
  webserver := some config.webserver.given
  subsystems := some config.subsystems.given

theorem writesAddress_chars (address : Address) :
    WritesAddress address (chars (.str address.text)) :=
  ⟨address.text, writesString_chars address.text, Address.parse?_text address⟩

theorem WebserverConfig.isWritten_toJson (config : WebserverConfig) :
    config.given.IsWritten (chars config.toJson) := by
  have honce : (WebserverConfig.names.filter (· ∈ WebserverConfig.names)).Nodup := by decide
  refine ⟨_, isObject_chars _, ?_⟩
  exact {
    known := knownOnce_chars honce
    enabled := gives_some (by simp) (writesBool_chars config.enabled)
    interface := gives_some (by simp) (writesAddress_chars config.interface)
    port := gives_some (by simp) (writesNat_chars config.port.toNat) }

theorem SubsystemConfig.isWritten_toJson (config : SubsystemConfig) :
    config.given.IsWritten (chars config.toJson) := by
  have honce : (SubsystemConfig.names.filter (· ∈ SubsystemConfig.names)).Nodup := by decide
  refine ⟨_, isObject_chars _, ?_⟩
  exact {
    known := knownOnce_chars honce
    codegenOptLevel := gives_some (by simp) (writesNat_chars config.codegenOptLevel.toNat)
    storageConfDir := gives_some (by simp) (writesOption_chars config.storageConfDir)
    hbaseEnabled := gives_some (by simp) (writesBool_chars config.hbaseEnabled)
    hbaseWriteBufferBytes := gives_some (by simp) (writesNat_chars config.hbaseWriteBufferBytes.toNat)
    frontendClasspath := gives_some (by simp) (writesList_chars config.frontendClasspath) }

/-- The written form of a configuration gives all its settings. -/
theorem Config.isFile_toJson (config : Config) : config.given.IsFile config.toJson.text := by
  have honce : (Config.names.filter (· ∈ Config.names)).Nodup := by decide
  have hobject : IsObject _ (chars config.toJson) := isObject_chars _
  refine ⟨chars config.toJson, _, ?_, hobject, ?_⟩
  · rw [Json.text, String.toList_ofList]
    exact isElement_self _
  · exact {
      known := knownOnce_chars honce
      plannerPort := gives_some (by simp) (writesNat_chars config.plannerPort.toNat)
      workerPort := gives_some (by simp) (writesNat_chars config.workerPort.toNat)
      hostname := gives_some (by simp) (writesString_chars config.hostname)
      rpcInterface := gives_some (by simp) (writesAddress_chars config.rpcInterface)
      webserver := gives_some (by simp) config.webserver.isWritten_toJson
      subsystems := gives_some (by simp) config.subsystems.isWritten_toJson }

/-! ## §2 Writing and Loading -/

/-- All settings on top of others are the settings themselves. -/
theorem Config.atop_given (config other : Config) : config.given.atop other = config := rfl

theorem Config.expanded_of_plain (vars : Variables) {config : Config}
    (hhostname : ¬RefersTo config.hostname)
    (hdir : ∀ dir ∈ config.subsystems.storageConfDir, ¬RefersTo dir) :
    config.expanded vars = config := by
  have hexpanded : config.subsystems.storageConfDir.map (expand vars) =
      config.subsystems.storageConfDir := by
    cases hgiven : config.subsystems.storageConfDir with
    | none => rfl
    | some dir => rw [Option.map_some, expand_of_plain vars (hdir dir hgiven)]
  rw [Config.expanded, expand_of_plain vars hhostname, hexpanded]

theorem Config.override_none (config : Config) : config.override .none = config := by
  simp [Config.override, Overrides.none]

/-- **A configuration survives being written and loaded.**  Whatever its settings are, if neither its
host name nor its storage directory refers to a variable, then loading the file that its written form
was put into gives the configuration back, wherever the file is and whatever the surroundings are. -/
theorem Config.load_toJson (config : Config) (host : Host) (path : String)
    (hfile : host.files.find path = .ok (.file (Text.bytes config.toJson.text)))
    (hhostname : ¬RefersTo config.hostname)
    (hdir : ∀ dir ∈ config.subsystems.storageConfDir, ¬RefersTo dir) :
    Config.load host (some path) .none = .ok config := by
  have hread := FileTree.readText_of_find hfile
  have hparse : Config.parse host.defaultHostname config.toJson.text = .ok config := by
    rw [parse_of_isFile host.defaultHostname config.isFile_toJson, Config.atop_given]
  -- nothing is expanded, and nothing is given directly
  have hexpanded := Config.expanded_of_plain host.vars hhostname hdir
  rw [Config.load, Config.ofFile, hread]
  simp only [hparse, hexpanded, Except.map, Config.override_none]

/-- A configuration with an address of each family, and with characters that are escaped. -/
def Config.versatile : Config where
  plannerPort := 0
  workerPort := 65535
  hostname := "knoten-ä"
  rpcInterface := .v6 ⟨[0x2001, 0xdb8, 0, 0, 0, 0, 0, 1], rfl⟩
  webserver := ⟨false, .v4 .unspecified, 8080⟩
  subsystems := ⟨255, some "/etc/\"conf\"", true, 18446744073709551615, ["a\\b\n", ""]⟩

/-- It is given back by the file `etc/daemon.json`. -/
theorem Config.load_toJson_versatile :
    let files := FileTree.add ⟨[], ["srv"]⟩ "etc/daemon.json"
      (.file (Text.bytes Config.versatile.toJson.text))
    Config.load ⟨⟨[("NODE", "x")]⟩, files, none⟩ (some "etc/daemon.json") .none =
      .ok Config.versatile :=
  Config.load_toJson Config.versatile _ "etc/daemon.json" rfl (by decide) (by decide)

end RoleDaemon
