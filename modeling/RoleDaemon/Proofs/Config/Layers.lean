import RoleDaemon.Config.Load
import RoleDaemon.Proofs.Config.Expansion
import RoleDaemon.Proofs.Files.Tree
import RoleDaemon.Proofs.Json.Reading
import RoleDaemon.Proofs.Json.Writing

/-!
# The Layers of a Configuration

A configuration that is loaded from a well-formed file has, in every setting, what was given directly,
else what the file gives, else the default.

## Architecture

- `WebserverConfig.Given`, `SubsystemConfig.Given`, `Config.Given`: the settings that a file gives, each
  of which may be missing
- `Given.IsGivenBy`: the members of an object that give these settings, in any order and with any
  unknown members between them
- `Given.put`: what a member of a given name does to the settings read so far, and `accepts`: that the
  fields of the file accept every such member
- `applied_put`: what all members do together, setting by setting
- `Config.parse_of_isFile`: the settings of a file on top of the defaults
- `Config.layered`: the configuration of all layers, setting by setting

Main statements:
- `IsGivenBy.rearranged`: the order of the members and the unknown ones do not matter, in the file and
  in each of its sections
- `Config.load_layers`: the configuration that is loaded is the layered one
-/

namespace RoleDaemon

open Json Net

/-! ## §1 What a File Gives -/

/-- A string that spells the address. -/
def WritesAddress (address : Address) (text : List Char) : Prop :=
  ∃ s, WritesString s text ∧ Address.parse? s = some address

/-- The settings of the diagnostic endpoint that a file gives. -/
structure WebserverConfig.Given where
  enabled : Option Bool
  interface : Option Address
  port : Option UInt16
  deriving Repr

/-- The settings of the subsystem steps that a file gives.  The storage directory may be given as
none. -/
structure SubsystemConfig.Given where
  codegenOptLevel : Option UInt8
  storageConfDir : Option (Option String)
  hbaseEnabled : Option Bool
  hbaseWriteBufferBytes : Option UInt64
  frontendClasspath : Option (List String)
  deriving Repr

/-- The settings that a file gives. -/
structure Config.Given where
  plannerPort : Option UInt16
  workerPort : Option UInt16
  hostname : Option String
  rpcInterface : Option Address
  webserver : Option WebserverConfig.Given
  subsystems : Option SubsystemConfig.Given
  deriving Repr

/-- The names of the settings of the diagnostic endpoint. -/
def WebserverConfig.names : List String :=
  ["enabled", "interface", "port"]

/-- The names of the settings of the subsystem steps. -/
def SubsystemConfig.names : List String :=
  ["codegen_opt_level", "storage_conf_dir", "hbase_enabled", "hbase_write_buffer_bytes",
    "frontend_classpath"]

/-- The names of the settings at the top of a file. -/
def Config.names : List String :=
  ["planner_port", "worker_port", "hostname", "rpc_interface", "webserver", "subsystems"]

/-- The members of the section on the diagnostic endpoint. -/
structure WebserverConfig.Given.IsGivenBy (given : WebserverConfig.Given) (members : Members) :
    Prop where
  known : KnownOnce WebserverConfig.names members
  enabled : Gives WritesBool members "enabled" given.enabled
  interface : Gives WritesAddress members "interface" given.interface
  port : Gives (fun n => WritesNat n.toNat) members "port" given.port

/-- The members of the section on the subsystem steps. -/
structure SubsystemConfig.Given.IsGivenBy (given : SubsystemConfig.Given) (members : Members) :
    Prop where
  known : KnownOnce SubsystemConfig.names members
  codegenOptLevel :
    Gives (fun n => WritesNat n.toNat) members "codegen_opt_level" given.codegenOptLevel
  storageConfDir :
    Gives (WritesOption WritesString) members "storage_conf_dir" given.storageConfDir
  hbaseEnabled : Gives WritesBool members "hbase_enabled" given.hbaseEnabled
  hbaseWriteBufferBytes : Gives (fun n => WritesNat n.toNat) members "hbase_write_buffer_bytes"
    given.hbaseWriteBufferBytes
  frontendClasspath :
    Gives (WritesList WritesString) members "frontend_classpath" given.frontendClasspath

/-- The section on the diagnostic endpoint. -/
def WebserverConfig.Given.IsWritten (given : WebserverConfig.Given) (text : List Char) : Prop :=
  ∃ members, IsObject members text ∧ given.IsGivenBy members

/-- The section on the subsystem steps. -/
def SubsystemConfig.Given.IsWritten (given : SubsystemConfig.Given) (text : List Char) : Prop :=
  ∃ members, IsObject members text ∧ given.IsGivenBy members

/-- The members of a file. -/
structure Config.Given.IsGivenBy (given : Config.Given) (members : Members) : Prop where
  known : KnownOnce Config.names members
  plannerPort : Gives (fun n => WritesNat n.toNat) members "planner_port" given.plannerPort
  workerPort : Gives (fun n => WritesNat n.toNat) members "worker_port" given.workerPort
  hostname : Gives WritesString members "hostname" given.hostname
  rpcInterface : Gives WritesAddress members "rpc_interface" given.rpcInterface
  webserver : Gives WebserverConfig.Given.IsWritten members "webserver" given.webserver
  subsystems : Gives SubsystemConfig.Given.IsWritten members "subsystems" given.subsystems

/-- A file that gives the settings: an object with blanks around it. -/
def Config.Given.IsFile (given : Config.Given) (text : String) : Prop :=
  ∃ object members, IsElement object text.toList ∧ IsObject members object ∧ given.IsGivenBy members

/-! ## §2 Order and Unknown Members -/

/-- The section on the diagnostic endpoint may be rearranged. -/
theorem WebserverConfig.Given.IsGivenBy.rearranged {given : WebserverConfig.Given}
    {earlier later : Members} (h : given.IsGivenBy earlier)
    (hlater : Rearranges WebserverConfig.names earlier later) : given.IsGivenBy later where
  known := h.known.rearranged hlater
  enabled := h.enabled.rearranged hlater (by decide)
  interface := h.interface.rearranged hlater (by decide)
  port := h.port.rearranged hlater (by decide)

/-- The section on the subsystem steps may be rearranged. -/
theorem SubsystemConfig.Given.IsGivenBy.rearranged {given : SubsystemConfig.Given}
    {earlier later : Members} (h : given.IsGivenBy earlier)
    (hlater : Rearranges SubsystemConfig.names earlier later) : given.IsGivenBy later where
  known := h.known.rearranged hlater
  codegenOptLevel := h.codegenOptLevel.rearranged hlater (by decide)
  storageConfDir := h.storageConfDir.rearranged hlater (by decide)
  hbaseEnabled := h.hbaseEnabled.rearranged hlater (by decide)
  hbaseWriteBufferBytes := h.hbaseWriteBufferBytes.rearranged hlater (by decide)
  frontendClasspath := h.frontendClasspath.rearranged hlater (by decide)

/-- The file may be rearranged. -/
theorem Config.Given.IsGivenBy.rearranged {given : Config.Given} {earlier later : Members}
    (h : given.IsGivenBy earlier) (hlater : Rearranges Config.names earlier later) :
    given.IsGivenBy later where
  known := h.known.rearranged hlater
  plannerPort := h.plannerPort.rearranged hlater (by decide)
  workerPort := h.workerPort.rearranged hlater (by decide)
  hostname := h.hostname.rearranged hlater (by decide)
  rpcInterface := h.rpcInterface.rearranged hlater (by decide)
  webserver := h.webserver.rearranged hlater (by decide)
  subsystems := h.subsystems.rearranged hlater (by decide)

/-! ## §3 The Section on the Diagnostic Endpoint -/

theorem takes_readAddress {address : Address} {text : List Char} (h : WritesAddress address text) :
    Takes readAddress text address := by
  obtain ⟨s, hs, hparse⟩ := h
  exact Reader.takes_parsed "IP address" hs (by simp [hparse])

namespace WebserverConfig

/-- The given settings on top of others. -/
def Given.atop (given : Given) (config : WebserverConfig) : WebserverConfig where
  enabled := given.enabled.getD config.enabled
  interface := given.interface.getD config.interface
  port := given.port.getD config.port

/-- What the member of the given name does. -/
def Given.put (given : Given) (name : String) (config : WebserverConfig) : WebserverConfig :=
  if name = "enabled" then { config with enabled := given.enabled.getD config.enabled }
  else if name = "interface" then { config with interface := given.interface.getD config.interface }
  else if name = "port" then { config with port := given.port.getD config.port }
  else config

theorem Given.IsGivenBy.accepts {given : Given} {members : Members} (h : given.IsGivenBy members) :
    ∀ m ∈ members, record.Accepts given.put m := by
  rintro ⟨name, text⟩ hmem
  by_cases hknown : name ∈ names
  · -- the reader of the field reads what the members give, so the member does what its name says
    simp only [names, List.mem_cons, List.not_mem_nil, or_false] at hknown
    rcases hknown with rfl | rfl | rfl
    · refine .of_gives record rfl h.known h.enabled hmem fun a ha hwrites s => ?_
      simpa [put, ha] using Record.takes_of (Reader.takes_bool hwrites) s
    · refine .of_gives record rfl h.known h.interface hmem fun a ha hwrites s => ?_
      simpa [put, ha] using Record.takes_of (takes_readAddress hwrites) s
    · refine .of_gives record rfl h.known h.port hmem fun a ha hwrites s => ?_
      simpa [put, ha] using Record.takes_of (Reader.takes_uint16 a hwrites) s
  · refine .unknown hknown (h.known.unknown _ hmem hknown) fun s => ?_
    simp only [names, List.mem_cons, List.not_mem_nil, or_false, not_or] at hknown
    simp [put, hknown]

theorem Given.applied_put {given : Given} {members : Members} (h : given.IsGivenBy members)
    (config : WebserverConfig) : Record.applied given.put members config = given.atop config := by
  -- each setting is touched by the member of its own name, and by no other
  have henabled : (Record.applied given.put members config).enabled = _ :=
    Record.get_applied (fun other s => by unfold put; split_ifs <;> simp_all) h.enabled.mem config
  have hinterface : (Record.applied given.put members config).interface = _ :=
    Record.get_applied (fun other s => by unfold put; split_ifs <;> simp_all) h.interface.mem config
  have hport : (Record.applied given.put members config).port = _ :=
    Record.get_applied (fun other s => by unfold put; split_ifs <;> simp_all) h.port.mem config
  rw [atop, ← henabled, ← hinterface, ← hport]

end WebserverConfig

/-! ## §4 The Section on the Subsystem Steps -/

/-- A string starts with its quote. -/
theorem startsWithout_string {c : Char} (hquote : c ≠ '"') {s : String} {text : List Char}
    (h : WritesString s text) : StartsWithout c text := by
  obtain ⟨body, -, rfl⟩ := h
  exact startsWithout_cons (by decide) hquote.symm _

theorem takes_optionalPath {dir? : Option String} {text : List Char}
    (h : WritesOption WritesString dir? text) : Takes (Reader.optional readPath) text dir? :=
  Reader.takes_optional
    (fun _ _ hs => ⟨Reader.takes_string _ hs, startsWithout_string (by decide) hs⟩) h

theorem takes_paths {paths : List String} {text : List Char} (h : WritesList WritesString paths text) :
    Takes (Reader.list "a sequence" readPath) text paths :=
  Reader.takes_list _
    (fun _ _ hs => ⟨Reader.takes_string _ hs, startsWithout_string (by decide) hs⟩) h

namespace SubsystemConfig

/-- The given settings on top of others. -/
def Given.atop (given : Given) (config : SubsystemConfig) : SubsystemConfig where
  codegenOptLevel := given.codegenOptLevel.getD config.codegenOptLevel
  storageConfDir := given.storageConfDir.getD config.storageConfDir
  hbaseEnabled := given.hbaseEnabled.getD config.hbaseEnabled
  hbaseWriteBufferBytes := given.hbaseWriteBufferBytes.getD config.hbaseWriteBufferBytes
  frontendClasspath := given.frontendClasspath.getD config.frontendClasspath

/-- What the member of the given name does. -/
def Given.put (given : Given) (name : String) (config : SubsystemConfig) : SubsystemConfig :=
  if name = "codegen_opt_level" then
    { config with codegenOptLevel := given.codegenOptLevel.getD config.codegenOptLevel }
  else if name = "storage_conf_dir" then
    { config with storageConfDir := given.storageConfDir.getD config.storageConfDir }
  else if name = "hbase_enabled" then
    { config with hbaseEnabled := given.hbaseEnabled.getD config.hbaseEnabled }
  else if name = "hbase_write_buffer_bytes" then
    { config with
      hbaseWriteBufferBytes := given.hbaseWriteBufferBytes.getD config.hbaseWriteBufferBytes }
  else if name = "frontend_classpath" then
    { config with frontendClasspath := given.frontendClasspath.getD config.frontendClasspath }
  else config

theorem Given.IsGivenBy.accepts {given : Given} {members : Members} (h : given.IsGivenBy members) :
    ∀ m ∈ members, record.Accepts given.put m := by
  rintro ⟨name, text⟩ hmem
  by_cases hknown : name ∈ names
  · simp only [names, List.mem_cons, List.not_mem_nil, or_false] at hknown
    rcases hknown with rfl | rfl | rfl | rfl | rfl
    · refine .of_gives record rfl h.known h.codegenOptLevel hmem fun a ha hwrites s => ?_
      simpa [put, ha] using Record.takes_of (Reader.takes_uint8 a hwrites) s
    · refine .of_gives record rfl h.known h.storageConfDir hmem fun a ha hwrites s => ?_
      simpa [put, ha] using Record.takes_of (takes_optionalPath hwrites) s
    · refine .of_gives record rfl h.known h.hbaseEnabled hmem fun a ha hwrites s => ?_
      simpa [put, ha] using Record.takes_of (Reader.takes_bool hwrites) s
    · refine .of_gives record rfl h.known h.hbaseWriteBufferBytes hmem fun a ha hwrites s => ?_
      simpa [put, ha] using Record.takes_of (Reader.takes_uint64 a hwrites) s
    · refine .of_gives record rfl h.known h.frontendClasspath hmem fun a ha hwrites s => ?_
      simpa [put, ha] using Record.takes_of (takes_paths hwrites) s
  · refine .unknown hknown (h.known.unknown _ hmem hknown) fun s => ?_
    simp only [names, List.mem_cons, List.not_mem_nil, or_false, not_or] at hknown
    simp [put, hknown]

theorem Given.applied_put {given : Given} {members : Members} (h : given.IsGivenBy members)
    (config : SubsystemConfig) : Record.applied given.put members config = given.atop config := by
  -- again each setting is touched by the member of its own name only
  have hlevel : (Record.applied given.put members config).codegenOptLevel = _ :=
    Record.get_applied (fun other s => by unfold put; split_ifs <;> simp_all)
      h.codegenOptLevel.mem config
  have hdir : (Record.applied given.put members config).storageConfDir = _ :=
    Record.get_applied (fun other s => by unfold put; split_ifs <;> simp_all)
      h.storageConfDir.mem config
  have henabled : (Record.applied given.put members config).hbaseEnabled = _ :=
    Record.get_applied (fun other s => by unfold put; split_ifs <;> simp_all) h.hbaseEnabled.mem config
  have hbuffer : (Record.applied given.put members config).hbaseWriteBufferBytes = _ :=
    Record.get_applied (fun other s => by unfold put; split_ifs <;> simp_all)
      h.hbaseWriteBufferBytes.mem config
  have hclasspath : (Record.applied given.put members config).frontendClasspath = _ :=
    Record.get_applied (fun other s => by unfold put; split_ifs <;> simp_all)
      h.frontendClasspath.mem config
  rw [atop, ← hlevel, ← hdir, ← henabled, ← hbuffer, ← hclasspath]

end SubsystemConfig

/-! ## §5 The Whole File -/

theorem takes_webserver {given : WebserverConfig.Given} {text : List Char} (h : given.IsWritten text) :
    Takes (WebserverConfig.record.read .default) text (given.atop .default) := by
  obtain ⟨members, hobject, hgiven⟩ := h
  rw [← WebserverConfig.Given.applied_put hgiven]
  exact Record.takes_object hobject hgiven.accepts hgiven.known.once
    (by simp [WebserverConfig.record, Field.of]) _

theorem takes_subsystems {given : SubsystemConfig.Given} {text : List Char}
    (h : given.IsWritten text) :
    Takes (SubsystemConfig.record.read .default) text (given.atop .default) := by
  obtain ⟨members, hobject, hgiven⟩ := h
  rw [← SubsystemConfig.Given.applied_put hgiven]
  exact Record.takes_object hobject hgiven.accepts hgiven.known.once
    (by simp [SubsystemConfig.record, Field.of]) _

namespace Config

/-- The given settings on top of others.  A section that is given stands on top of its defaults. -/
def Given.atop (given : Given) (config : Config) : Config where
  plannerPort := given.plannerPort.getD config.plannerPort
  workerPort := given.workerPort.getD config.workerPort
  hostname := given.hostname.getD config.hostname
  rpcInterface := given.rpcInterface.getD config.rpcInterface
  webserver := (given.webserver.map (·.atop .default)).getD config.webserver
  subsystems := (given.subsystems.map (·.atop .default)).getD config.subsystems

/-- What the member of the given name does. -/
def Given.put (given : Given) (name : String) (config : Config) : Config :=
  if name = "planner_port" then
    { config with plannerPort := given.plannerPort.getD config.plannerPort }
  else if name = "worker_port" then
    { config with workerPort := given.workerPort.getD config.workerPort }
  else if name = "hostname" then { config with hostname := given.hostname.getD config.hostname }
  else if name = "rpc_interface" then
    { config with rpcInterface := given.rpcInterface.getD config.rpcInterface }
  else if name = "webserver" then
    { config with webserver := (given.webserver.map (·.atop .default)).getD config.webserver }
  else if name = "subsystems" then
    { config with subsystems := (given.subsystems.map (·.atop .default)).getD config.subsystems }
  else config

theorem Given.IsGivenBy.accepts {given : Given} {members : Members} (h : given.IsGivenBy members) :
    ∀ m ∈ members, record.Accepts given.put m := by
  rintro ⟨name, text⟩ hmem
  by_cases hknown : name ∈ names
  · simp only [names, List.mem_cons, List.not_mem_nil, or_false] at hknown
    rcases hknown with rfl | rfl | rfl | rfl | rfl | rfl
    · refine .of_gives record rfl h.known h.plannerPort hmem fun a ha hwrites s => ?_
      simpa [put, ha] using Record.takes_of (Reader.takes_uint16 a hwrites) s
    · refine .of_gives record rfl h.known h.workerPort hmem fun a ha hwrites s => ?_
      simpa [put, ha] using Record.takes_of (Reader.takes_uint16 a hwrites) s
    · refine .of_gives record rfl h.known h.hostname hmem fun a ha hwrites s => ?_
      simpa [put, ha] using Record.takes_of (Reader.takes_string _ hwrites) s
    · refine .of_gives record rfl h.known h.rpcInterface hmem fun a ha hwrites s => ?_
      simpa [put, ha] using Record.takes_of (takes_readAddress hwrites) s
    · refine .of_gives record rfl h.known h.webserver hmem fun a ha hwrites s => ?_
      simpa [put, ha] using Record.takes_of (takes_webserver hwrites) s
    · refine .of_gives record rfl h.known h.subsystems hmem fun a ha hwrites s => ?_
      simpa [put, ha] using Record.takes_of (takes_subsystems hwrites) s
  · refine .unknown hknown (h.known.unknown _ hmem hknown) fun s => ?_
    simp only [names, List.mem_cons, List.not_mem_nil, or_false, not_or] at hknown
    simp [put, hknown]

theorem Given.applied_put {given : Given} {members : Members} (h : given.IsGivenBy members)
    (config : Config) : Record.applied given.put members config = given.atop config := by
  have hplanner : (Record.applied given.put members config).plannerPort = _ :=
    Record.get_applied (fun other s => by unfold put; split_ifs <;> simp_all) h.plannerPort.mem config
  have hworker : (Record.applied given.put members config).workerPort = _ :=
    Record.get_applied (fun other s => by unfold put; split_ifs <;> simp_all) h.workerPort.mem config
  have hhostname : (Record.applied given.put members config).hostname = _ :=
    Record.get_applied (fun other s => by unfold put; split_ifs <;> simp_all) h.hostname.mem config
  have hinterface : (Record.applied given.put members config).rpcInterface = _ :=
    Record.get_applied (fun other s => by unfold put; split_ifs <;> simp_all) h.rpcInterface.mem config
  -- a section is read as a whole, on top of its own defaults
  have hwebserver : (Record.applied given.put members config).webserver =
      (given.webserver.map (·.atop .default)).getD config.webserver :=
    Record.get_applied (fun other s => by unfold put; split_ifs <;> simp_all)
      (fun hgiven => h.webserver.mem (by simpa using hgiven)) config
  have hsubsystems : (Record.applied given.put members config).subsystems =
      (given.subsystems.map (·.atop .default)).getD config.subsystems :=
    Record.get_applied (fun other s => by unfold put; split_ifs <;> simp_all)
      (fun hgiven => h.subsystems.mem (by simpa using hgiven)) config
  rw [atop, ← hplanner, ← hworker, ← hhostname, ← hinterface, ← hwebserver, ← hsubsystems]

/-- A file gives its settings on top of the defaults. -/
theorem parse_of_isFile (hostname : String) {given : Given} {text : String}
    (h : given.IsFile text) : Config.parse hostname text = .ok (given.atop (.default hostname)) := by
  obtain ⟨object, members, htext, hobject, hgiven⟩ := h
  have hdocument := Record.document_object hobject htext hgiven.accepts hgiven.known.once
    (by simp [record, Field.of]) (.default hostname)
  rw [String.ofList_toList, Given.applied_put hgiven] at hdocument
  rw [parse, hdocument]

end Config

/-! ## §6 All Layers -/

namespace Config

/-- The configuration of all layers, setting by setting: what was given directly, else what the file
gives, else the default.  The diagnostic endpoint can only be turned off directly, and the table bindings
only on.  The host name and the storage directory of the file are expanded, and those given directly are
not. -/
def layered (host : Host) (given : Given) (overrides : Overrides) : Config where
  plannerPort := (overrides.plannerPort.or given.plannerPort).getD 12050
  workerPort := (overrides.workerPort.or given.workerPort).getD 13050
  hostname :=
    (overrides.hostname.or (given.hostname.map (expand host.vars))).getD host.defaultHostname
  rpcInterface := (overrides.rpcInterface.or given.rpcInterface).getD (.v4 .unspecified)
  webserver := {
    enabled := !overrides.disableWebserver && (given.webserver.bind (·.enabled)).getD true
    interface :=
      (overrides.webserverInterface.or (given.webserver.bind (·.interface))).getD (.v4 .unspecified)
    port := (overrides.webserverPort.or (given.webserver.bind (·.port))).getD 11050 }
  subsystems := {
    codegenOptLevel :=
      (overrides.codegenOptLevel.or (given.subsystems.bind (·.codegenOptLevel))).getD 2
    storageConfDir := overrides.storageConfDir.or
      ((given.subsystems.bind (·.storageConfDir)).join.map (expand host.vars))
    hbaseEnabled := overrides.hbaseEnabled || (given.subsystems.bind (·.hbaseEnabled)).getD false
    hbaseWriteBufferBytes := (given.subsystems.bind (·.hbaseWriteBufferBytes)).getD 2097152
    frontendClasspath :=
      (overrides.frontendClasspath.or (given.subsystems.bind (·.frontendClasspath))).getD [] }

/-- The section on the diagnostic endpoint, with its defaults where it is missing. -/
theorem webserver_atop (given : Option WebserverConfig.Given) :
    (given.map (·.atop .default)).getD .default =
      { enabled := (given.bind (·.enabled)).getD true
        interface := (given.bind (·.interface)).getD (.v4 .unspecified)
        port := (given.bind (·.port)).getD 11050 } := by
  cases given <;> rfl

/-- The section on the subsystem steps, with its defaults where it is missing. -/
theorem subsystems_atop (given : Option SubsystemConfig.Given) :
    (given.map (·.atop .default)).getD .default =
      { codegenOptLevel := (given.bind (·.codegenOptLevel)).getD 2
        storageConfDir := (given.bind (·.storageConfDir)).join
        hbaseEnabled := (given.bind (·.hbaseEnabled)).getD false
        hbaseWriteBufferBytes := (given.bind (·.hbaseWriteBufferBytes)).getD 2097152
        frontendClasspath := (given.bind (·.frontendClasspath)).getD [] } := by
  cases given with
  | none => rfl
  | some given =>
    have hdir : given.storageConfDir.getD none = given.storageConfDir.join := by
      cases given.storageConfDir <;> rfl
    simp [SubsystemConfig.Given.atop, SubsystemConfig.default, hdir]

/-- The layers of the loading are those of the settings. -/
theorem override_expanded_atop (host : Host) (given : Given) (overrides : Overrides)
    (hplain : ¬RefersTo host.defaultHostname) :
    ((given.atop (.default host.defaultHostname)).expanded host.vars).override overrides =
      layered host given overrides := by
  -- the default host name is expanded with the rest of the file, which does not change it
  have hhostname : expand host.vars (given.hostname.getD host.defaultHostname) =
      (given.hostname.map (expand host.vars)).getD host.defaultHostname := by
    cases given.hostname with
    | none => exact expand_of_plain host.vars hplain
    | some name => rfl
  simp only [override, expanded, Given.atop, Config.default, layered, webserver_atop,
    subsystems_atop, hhostname, Option.getD_or, Bool.and_comm, Bool.or_comm]

/-- **Configuration layering.**  A file that is an object of any of the known settings, each at most once
and of its type, in any order and with any unknown members at each level, is loaded, and every setting
of the result is the one given directly, else that of the file, else the default.  Every other file that
gives the same settings leads to the same configuration. -/
theorem load_layers (host : Host) (path text : String) (given : Given) (overrides : Overrides)
    (hread : host.files.readText path = .ok text) (hfile : given.IsFile text)
    (hplain : ¬RefersTo host.defaultHostname) :
    Config.load host (some path) overrides = .ok (layered host given overrides) ∧
      ∀ path' text', host.files.readText path' = .ok text' → given.IsFile text' →
        Config.load host (some path') overrides = Config.load host (some path) overrides := by
  -- the loading knows the file by the settings that it gives, and by nothing else
  have hload : ∀ path text, host.files.readText path = .ok text → given.IsFile text →
      Config.load host (some path) overrides = .ok (layered host given overrides) := by
    intro path text hread hfile
    rw [load, ofFile, hread]
    simp only [parse_of_isFile _ hfile, Except.map, override_expanded_atop host given overrides hplain]
  refine ⟨hload path text hread hfile, fun path' text' hread' hfile' => ?_⟩
  rw [hload path' text' hread' hfile', hload path text hread hfile]

/-- A file with unknown members in it and with a section that gives a single setting. -/
def partialFile : Json :=
  .obj [("owner", .obj [("port", .arr [.null, .int (-1)])]), ("hostname", .str "$\x7bNODE\x7d.lan"),
    ("subsystems", .obj [("hbase_enabled", .bool true), ("note", .str "")]), ("worker_port", .nat 0)]

/-- What it gives. -/
def partialGiven : Given where
  plannerPort := none
  workerPort := some 0
  hostname := some "$\x7bNODE\x7d.lan"
  rpcInterface := none
  webserver := none
  subsystems := some ⟨none, none, some true, none, none⟩

theorem partialGiven_isFile : partialGiven.IsFile partialFile.text := by
  have hsection : SubsystemConfig.Given.IsWritten ⟨none, none, some true, none, none⟩
      (chars (.obj [("hbase_enabled", .bool true), ("note", .str "")])) :=
    ⟨_, isObject_chars _, {
      known := knownOnce_chars (by decide)
      codegenOptLevel := gives_none (by decide)
      storageConfDir := gives_none (by decide)
      hbaseEnabled := gives_some (by simp) (writesBool_chars true)
      hbaseWriteBufferBytes := gives_none (by decide)
      frontendClasspath := gives_none (by decide) }⟩
  have hobject : IsObject _ (chars partialFile) := isObject_chars _
  refine ⟨chars partialFile, _, ?_, hobject, ?_⟩
  · rw [Json.text, String.toList_ofList]
    exact isElement_self _
  · exact {
      known := knownOnce_chars (by decide)
      plannerPort := gives_none (by decide)
      workerPort := gives_some (by simp) (writesNat_chars 0)
      hostname := gives_some (by simp) (writesString_chars _)
      rpcInterface := gives_none (by decide)
      webserver := gives_none (by decide)
      subsystems := gives_some (by simp) hsection }

/-- Surroundings in which the file stands. -/
def partialHost : Host where
  vars := ⟨[("NODE", "n7")]⟩
  files := FileTree.add ⟨[], []⟩ "daemon.json" (.file (Text.bytes partialFile.text))
  name := none

/-- The file is loaded with an interface given directly: the host name is expanded, and all that nobody
gave has its default. -/
theorem load_layers_partialFile :
    Config.load partialHost (some "daemon.json")
        { Overrides.none with rpcInterface := some (.v4 ⟨127, 0, 0, 1⟩) } =
      .ok { Config.default "n7.lan" with
        workerPort := 0
        rpcInterface := .v4 ⟨127, 0, 0, 1⟩
        subsystems := { SubsystemConfig.default with hbaseEnabled := true } } := by
  have hread : partialHost.files.readText "daemon.json" = .ok partialFile.text :=
    FileTree.readText_of_find rfl
  have hplain : ¬RefersTo partialHost.defaultHostname := by decide
  have hload := load_layers partialHost "daemon.json" partialFile.text partialGiven
    { Overrides.none with rpcInterface := some (.v4 ⟨127, 0, 0, 1⟩) } hread partialGiven_isFile hplain
  refine hload.1.trans (congrArg Except.ok ?_)
  decide +kernel

end Config

end RoleDaemon
