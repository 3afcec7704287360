import RoleDaemon.Proofs.Config.Layers
import RoleDaemon.Proofs.Json.Defaults

/-!
# What a File Supplies, and What of It Is Expanded

A file supplies some of the texts of a configuration, and the rest comes from the surroundings or was
given directly.  The texts of the file are those that should be expanded, and no others.  The expansion
comes after the defaults were put in, so that it reaches the default host name too; and it does not reach
the class path of the frontend.

## Architecture

- `HostChange`: what reading a file does to the host name of the defaults
- `ReadsAs`: a file with the host name that it supplies, and with all its other settings;
  `exists_readsAs`: every file that is read at all reads as something
- `ReadsAs.of_isFile`: what this is for a file that is an object of known settings
- `FollowsFile`: the texts of the file expanded, and all other texts as they are

Main statements:
- `load_expands`: the texts of a loaded configuration, and when they follow the file
-/

namespace RoleDaemon.Config

open Json

/-! ## §1 The Host Name of a File -/

/-- A change of a configuration that leaves the host name, or that gives one. -/
inductive HostChange (change : Config → Config) : Prop where
  /-- The host name stays, and has no part in the change. -/
  | leaves (hleaves : ∀ config name,
      change { config with hostname := name } = { change config with hostname := name })
  /-- The host name is replaced, and has no part in the change. -/
  | gives (hgives : ∀ config name, change { config with hostname := name } = change config)

theorem composable_hostChange : Record.Composable HostChange where
  none := .leaves fun _ _ => rfl
  andThen := by
    intro first second hfirst hsecond
    -- once a host name was given, none before it matters
    cases hfirst with
    | gives hfirst => exact .gives fun config name => congrArg second (hfirst config name)
    | leaves hfirst =>
      cases hsecond with
      | leaves hsecond =>
        exact .leaves fun config name =>
          (congrArg second (hfirst config name)).trans (hsecond _ name)
      | gives hsecond =>
        exact .gives fun config name =>
          (congrArg second (hfirst config name)).trans (hsecond _ name)

/-- Only the field of its name gives the host name. -/
theorem changes_record : ∀ field ∈ record.fields, Record.Changes HostChange field.read := by
  simp only [record, List.forall_mem_cons, List.not_mem_nil, false_implies, implies_true, and_true]
  refine ⟨?_, ?_, ?_, ?_, ?_, ?_⟩
  · exact Record.changes_of _ _ _ fun _ => .leaves fun _ _ => rfl
  · exact Record.changes_of _ _ _ fun _ => .leaves fun _ _ => rfl
  · exact Record.changes_of _ _ _ fun _ => .gives fun _ _ => rfl
  · exact Record.changes_of _ _ _ fun _ => .leaves fun _ _ => rfl
  · exact Record.changes_of _ _ _ fun _ => .leaves fun _ _ => rfl
  · exact Record.changes_of _ _ _ fun _ => .leaves fun _ _ => rfl

/-- The text is read as the configuration on top of any defaults, with the host name of its own, if it has
    one, and with the default otherwise. -/
def ReadsAs (text : String) (own? : Option String) (file : Config) : Prop :=
  ∀ default, Config.parse default text = .ok { file with hostname := own?.getD default }

/-- A file that is read on top of one default reads as some configuration, whatever the default is. -/
theorem exists_readsAs {default text : String} {config : Config}
    (hparse : Config.parse default text = .ok config) : ∃ own? file, ReadsAs text own? file := by
  obtain ⟨error, hread⟩ | ⟨change, hchange, hread⟩ :=
    Record.document_changes composable_hostChange changes_record text
  · simp [parse, hread] at hparse
  · -- the defaults differ in nothing but the host name
    have hchanged : ∀ default, Config.parse default text =
        .ok (change { Config.default "" with hostname := default }) := by
      intro default
      rw [parse, show Config.default default = { Config.default "" with hostname := default } from rfl,
        hread]
    cases hchange with
    | leaves hleaves =>
      exact ⟨none, change (.default ""), fun default => by rw [hchanged, hleaves]; rfl⟩
    | gives hgives =>
      exact ⟨some (change (.default "")).hostname, change (.default ""),
        fun default => by rw [hchanged, hgives]; rfl⟩

/-- An object of known settings reads as these settings on top of the defaults. -/
theorem ReadsAs.of_isFile {text : String} {given : Given} (h : given.IsFile text) :
    ReadsAs text given.hostname (given.atop (.default "")) := by
  intro default
  rw [parse_of_isFile default h]
  rfl

/-- A file supplies one host name or none, and its other settings are those of every reading. -/
theorem ReadsAs.unique {text : String} {own? own?' : Option String} {file file' : Config}
    (h : ReadsAs text own? file) (h' : ReadsAs text own?' file') :
    own?' = own? ∧ file'.subsystems = file.subsystems := by
  have hsame : ∀ default, ({ file' with hostname := own?'.getD default } : Config) =
      { file with hostname := own?.getD default } :=
    fun default => Except.ok.inj ((h' default).symm.trans (h default))
  have hname : ∀ default, own?'.getD default = own?.getD default :=
    fun default => congrArg Config.hostname (hsame default)
  have hsubsystems := congrArg Config.subsystems (hsame "")
  refine ⟨?_, hsubsystems⟩
  cases own? with
  | none =>
    cases own?' with
    | none => rfl
    | some name =>
      -- a host name of the file would have to be every default
      have hfirst : name = "a" := hname "a"
      have hsecond : name = "b" := hname "b"
      exact absurd (hfirst.symm.trans hsecond) (by decide)
  | some name =>
    cases own?' with
    | none =>
      have hfirst : "a" = name := hname "a"
      have hsecond : "b" = name := hname "b"
      exact absurd (hfirst.trans hsecond.symm) (by decide)
    | some name' => exact congrArg some (hname "")

/-! ## §2 What Is Expanded -/

/-- The texts of the configuration follow the file: what the file supplies is expanded, and what was given
directly, or comes from the surroundings, is taken as it is. -/
structure FollowsFile (host : Host) (overrides : Overrides) (own? : Option String) (file config : Config) :
    Prop where
  hostname :
    config.hostname = (overrides.hostname.or (own?.map (expand host.vars))).getD host.defaultHostname
  storageConfDir : config.subsystems.storageConfDir =
    overrides.storageConfDir.or (file.subsystems.storageConfDir.map (expand host.vars))
  frontendClasspath : config.subsystems.frontendClasspath =
    overrides.frontendClasspath.getD (file.subsystems.frontendClasspath.map (expand host.vars))

theorem load_of_readsAs {host : Host} {path text : String} {own? : Option String} {file : Config}
    (hread : host.files.readText path = .ok text) (hfile : ReadsAs text own? file)
    (overrides : Overrides) :
    Config.load host (some path) overrides =
      .ok ((({ file with hostname := own?.getD host.defaultHostname } : Config).expanded host.vars).override
        overrides) := by
  rw [load, ofFile, hread]
  simp only [hfile host.defaultHostname, Except.map]

/-- The host name follows the file, unless the default is taken and is not its own expansion. -/
theorem followsFile_hostname_iff (vars : Variables) (overridden? own? : Option String)
    (default : String) :
    overridden?.getD (expand vars (own?.getD default)) =
        (overridden?.or (own?.map (expand vars))).getD default ↔
      (overridden? = none → own? = none → expand vars default = default) := by
  cases overridden? with
  | some name => simp
  | none => cases own? <;> simp

/-- The class path follows the file, unless it is taken and some entry is not its own expansion. -/
theorem followsFile_frontendClasspath_iff (vars : Variables) (overridden? : Option (List String))
    (entries : List String) :
    overridden?.getD entries = overridden?.getD (entries.map (expand vars)) ↔
      (overridden? = none → ∀ entry ∈ entries, expand vars entry = entry) := by
  cases overridden? with
  | some entries => simp
  | none =>
    have hmap : entries.map (expand vars) = entries.map id ↔
        ∀ entry ∈ entries, expand vars entry = entry := List.map_eq_map_iff
    rw [List.map_id] at hmap
    rw [Option.getD_none, Option.getD_none, eq_comm, hmap]
    exact ⟨fun h _ => h, fun h => h rfl⟩

/-- A file without settings leaves the host name to the default, and all else too. -/
theorem readsAs_empty : ReadsAs "\x7b\x7d" none (.default "") :=
  fun _ => rfl

/-- Two configurations that differ in the host name are the same under what was given directly, if the same
host name is taken. -/
theorem override_hostname_iff (config : Config) (overrides : Overrides) (name name' : String) :
    ({ config with hostname := name } : Config).override overrides =
        ({ config with hostname := name' } : Config).override overrides ↔
      overrides.hostname.getD name = overrides.hostname.getD name' := by
  constructor
  · intro h
    exact congrArg Config.hostname h
  · intro h
    simp only [override, h]

/-- **What is expanded.**  A file that is read supplies a host name or none, and its other texts; for an
object of known settings these are the ones that it gives.  It is loaded, and the texts of the loaded
configuration are the ones given directly; else the host name is the expansion of that of the file or of
the default, the storage directory is the expansion of that of the file, and the class path is that of the
file without expansion.

So the texts follow the file if the default host name is its own expansion wherever it is taken, and the
entries of the class path are wherever they are taken, and in no other case.  A file without settings
leads to the configuration that is loaded without a file if the default host name is its own expansion
or is not taken, and in no other case. -/
theorem load_expands (host : Host) (path text : String) (overrides : Overrides) {config₀ : Config}
    (hread : host.files.readText path = .ok text)
    (hparse : Config.parse host.defaultHostname text = .ok config₀) :
    ∃ own? file config, ReadsAs text own? file ∧
      (∀ given : Given, given.IsFile text → own? = given.hostname ∧
        file.subsystems = (given.subsystems.map (·.atop .default)).getD .default) ∧
      Config.load host (some path) overrides = .ok config ∧
      config.hostname =
        overrides.hostname.getD (expand host.vars (own?.getD host.defaultHostname)) ∧
      config.subsystems.storageConfDir =
        overrides.storageConfDir.or (file.subsystems.storageConfDir.map (expand host.vars)) ∧
      config.subsystems.frontendClasspath =
        overrides.frontendClasspath.getD file.subsystems.frontendClasspath ∧
      (FollowsFile host overrides own? file config ↔
        (overrides.hostname = none → own? = none →
          expand host.vars host.defaultHostname = host.defaultHostname) ∧
        (overrides.frontendClasspath = none →
          ∀ entry ∈ file.subsystems.frontendClasspath, expand host.vars entry = entry)) ∧
      (text = "\x7b\x7d" →
        (Config.load host (some path) overrides = Config.load host none overrides ↔
          (overrides.hostname = none →
            expand host.vars host.defaultHostname = host.defaultHostname))) := by
  obtain ⟨own?, file, hfile⟩ := exists_readsAs hparse
  refine ⟨own?, file, _, hfile, ?given, load_of_readsAs hread hfile overrides, rfl, rfl, rfl,
    ?follows, ?empty⟩
  case given =>
    -- an object of known settings reads as them, and no text reads as two things
    intro given hgiven
    obtain ⟨hown, hsubsystems⟩ := (ReadsAs.of_isFile hgiven).unique hfile
    exact ⟨hown, hsubsystems⟩
  case follows =>
    -- the storage directory always follows the file, so the other two texts decide
    rw [← followsFile_hostname_iff, ← followsFile_frontendClasspath_iff]
    constructor
    · intro h
      exact ⟨h.hostname, h.frontendClasspath⟩
    · rintro ⟨hhostname, hclasspath⟩
      exact ⟨hhostname, rfl, hclasspath⟩
  case empty =>
    rintro rfl
    rw [load_of_readsAs hread readsAs_empty overrides, load, Except.ok.injEq]
    -- of the defaults only the host name is a text, so that only the host name can differ
    refine (override_hostname_iff (.default "") overrides (expand host.vars host.defaultHostname)
      host.defaultHostname).trans ?_
    cases overrides.hostname <;> simp

/-- A file that refers to a variable in each of its texts. -/
def referringFile : Json :=
  .obj [("hostname", .str "$\x7bNODE\x7d.lan"),
    ("subsystems", .obj [("storage_conf_dir", .str "$\x7bCONF\x7d"),
      ("frontend_classpath", .arr [.str "$\x7bJARS\x7d/a.jar"])])]

/-- What it gives. -/
def referringGiven : Given where
  plannerPort := none
  workerPort := none
  hostname := some "$\x7bNODE\x7d.lan"
  rpcInterface := none
  webserver := none
  subsystems := some ⟨none, some (some "$\x7bCONF\x7d"), none, none, some ["$\x7bJARS\x7d/a.jar"]⟩

theorem referringGiven_isFile : referringGiven.IsFile referringFile.text := by
  have hsection : SubsystemConfig.Given.IsWritten
      ⟨none, some (some "$\x7bCONF\x7d"), none, none, some ["$\x7bJARS\x7d/a.jar"]⟩
      (chars (.obj [("storage_conf_dir", .str "$\x7bCONF\x7d"),
        ("frontend_classpath", .arr [.str "$\x7bJARS\x7d/a.jar"])])) :=
    ⟨_, isObject_chars _, {
      known := knownOnce_chars (by decide)
      codegenOptLevel := gives_none (by decide)
      storageConfDir := gives_some (by simp) (writesString_chars _)
      hbaseEnabled := gives_none (by decide)
      hbaseWriteBufferBytes := gives_none (by decide)
      frontendClasspath := gives_some (by simp) (writesList_chars ["$\x7bJARS\x7d/a.jar"]) }⟩
  have hobject : IsObject _ (chars referringFile) := isObject_chars _
  refine ⟨chars referringFile, _, ?_, hobject, ?_⟩
  · rw [Json.text, String.toList_ofList]
    exact isElement_self _
  · exact {
      known := knownOnce_chars (by decide)
      plannerPort := gives_none (by decide)
      workerPort := gives_none (by decide)
      hostname := gives_some (by simp) (writesString_chars _)
      rpcInterface := gives_none (by decide)
      webserver := gives_none (by decide)
      subsystems := gives_some (by simp) hsection }

/-- Surroundings in which the host name refers to a variable too, with this file and with a file that gives
nothing. -/
def referringHost : Host where
  vars := ⟨[("HOSTNAME", "$\x7bNODE\x7d"), ("NODE", "n7"), ("CONF", "/etc/conf"), ("JARS", "/opt")]⟩
  files := ((⟨[], []⟩ : FileTree).add "daemon.json" (.file (Text.bytes referringFile.text))).add
    "empty.json" (.file (Text.bytes "\x7b\x7d"))
  name := none

/-- With a class path given directly, the texts follow the file. -/
theorem load_expands_directClasspath :
    let overrides := { Overrides.none with frontendClasspath := some ["$\x7bJARS\x7d/b.jar"] }
    ∃ own? file config, Config.load referringHost (some "daemon.json") overrides = .ok config ∧
      FollowsFile referringHost overrides own? file config ∧ config.hostname = "n7.lan" ∧
      config.subsystems.storageConfDir = some "/etc/conf" ∧
      config.subsystems.frontendClasspath = ["$\x7bJARS\x7d/b.jar"] := by
  intro overrides
  have hread : referringHost.files.readText "daemon.json" = .ok referringFile.text :=
    FileTree.readText_of_find rfl
  obtain ⟨own?, file, config, -, hgiven, hload, hhostname, hdir, hclasspath, hfollows, -⟩ :=
    load_expands referringHost "daemon.json" referringFile.text overrides hread
      (parse_of_isFile _ referringGiven_isFile)
  obtain ⟨rfl, hsubsystems⟩ := hgiven referringGiven referringGiven_isFile
  refine ⟨_, file, config, hload, hfollows.2 ⟨by simp [referringGiven], by simp [overrides]⟩, ?_, ?_,
    hclasspath⟩
  · rw [hhostname]
    decide +kernel
  · rw [hdir, hsubsystems]
    decide +kernel

/-- The class path of a file is loaded as it stands, though its variable is set; and the host name that the
surroundings give is expanded when there is a file, though the file has no part in it. -/
theorem load_misplaces :
    (Config.load referringHost (some "daemon.json") .none).map
        (·.subsystems.frontendClasspath) = .ok ["$\x7bJARS\x7d/a.jar"] ∧
      expand referringHost.vars "$\x7bJARS\x7d/a.jar" = "/opt/a.jar" ∧
      (Config.load referringHost (some "empty.json") .none).map (·.hostname) = .ok "n7" ∧
      (Config.load referringHost none .none).map (·.hostname) = .ok "$\x7bNODE\x7d" := by
  decide +kernel

end RoleDaemon.Config
