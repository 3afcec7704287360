import Mathlib.Data.List.Infix
import RoleDaemon.Proofs.Files.Path
import RoleDaemon.Proofs.Files.Tree
import RoleDaemon.Proofs.Subsystem.Run
import RoleDaemon.Subsystem.Defaults

/-!
# The Settings That the Default Steps Accept

Each default step makes a condition of the settings and of the file tree.  All conditions together say when
the native integrations can be set up, and the run succeeds just then; else it names the first step whose
own condition does not hold.  While the table bindings are off, nothing of theirs is looked at.

## Architecture

- `StandsFor`, `Found`: what an entry of the classpath stands for, and that it exists
- `Integration`: the default steps as a type, each with its check and with the condition that it makes
- `Integration.check_eq_ok_iff`: a check finds nothing wrong just when the condition holds
- `Sound`: all conditions together, `sound_iff`
- `sameResult_of_alike`: while the bindings are off, the result is told by what the other paths lead to

Main statements:
- `defaultSteps_accept_sound`: when the default steps succeed, and what they say when they do not
-/

namespace RoleDaemon.Subsystem

open FileTree (Alike AlikeAmong KeepsTo ReachesFile)

variable {files files' : FileTree} {config : SubsystemConfig} {entry place : String}

/-! ## §1 The Classpath -/

/-- The path that an entry stands for: where the entry ends in the name `*`, the path before this name, and
    the working directory if nothing is before it. -/
inductive StandsFor : (entry place : String) → Prop
  | itself {entry : String} : (∀ dir, ¬Path.EndsIn entry.toList dir ['*']) → StandsFor entry entry
  | above {entry dir : String} : Path.EndsIn entry.toList dir.toList ['*'] → dir ≠ "" →
      StandsFor entry dir
  | here {entry : String} : Path.EndsIn entry.toList [] ['*'] → StandsFor entry "."

/-- What the entry stands for exists. -/
def Found (files : FileTree) (entry : String) : Prop :=
  ∃ place, StandsFor entry place ∧ ∃ target, files.find place = .ok target

theorem endsInStar_iff (entry : String) (dir : List Char) :
    Path.EndsIn entry.toList dir ['*'] ↔
      Path.lastName? entry = some "*" ∧ Path.parent entry = String.ofList dir := by
  have h := Path.endsIn_iff entry (String.ofList dir) "*"
  rwa [String.toList_ofList] at h

/-- An entry stands for one path, and this is the one that is looked at. -/
theorem standsFor_iff : StandsFor entry place ↔ place = placeOfEntry entry := by
  constructor
  · intro h
    cases h with
    | itself hno =>
      rw [placeOfEntry, if_neg]
      intro hstar
      apply hno (Path.parent entry).toList
      rw [endsInStar_iff, String.ofList_toList]
      exact ⟨hstar, rfl⟩
    | above hends hdir =>
      obtain ⟨hstar, hparent⟩ := (endsInStar_iff _ _).1 hends
      rw [String.ofList_toList] at hparent
      rw [placeOfEntry, if_pos hstar, hparent, if_neg hdir]
    | here hends =>
      obtain ⟨hstar, hparent⟩ := (endsInStar_iff _ _).1 hends
      rw [placeOfEntry, if_pos hstar, if_pos hparent]
  · rintro rfl
    by_cases hstar : Path.lastName? entry = some "*"
    · have hends : Path.EndsIn entry.toList (Path.parent entry).toList ['*'] := by
        rw [endsInStar_iff, String.ofList_toList]
        exact ⟨hstar, rfl⟩
      rw [placeOfEntry, if_pos hstar]
      split
      · next hempty =>
        rw [hempty] at hends
        exact .here hends
      · next hdir => exact .above hends hdir
    · rw [placeOfEntry, if_neg hstar]
      exact .itself fun dir hends => hstar ((endsInStar_iff _ _).1 hends).1

/-- Idle pieces around the name are passed over, and the root is a path before it. -/
example : StandsFor "lib/.//*/" "lib" ∧ StandsFor "/*" "/" ∧ StandsFor "*" "." :=
  ⟨standsFor_iff.2 rfl, standsFor_iff.2 rfl, standsFor_iff.2 rfl⟩

theorem entryExists_iff : entryExists files entry = true ↔ Found files entry := by
  simp only [Found, standsFor_iff, exists_eq_left, entryExists, FileTree.exists?_iff]

/-- The entry is the first of the list for which nothing exists. -/
structure FirstMissing (files : FileTree) (entries : List String) (entry : String) : Prop where
  splits : ∃ before after, entries = before ++ entry :: after ∧ ∀ other ∈ before, Found files other
  missing : ¬Found files entry

/-! ## §2 The Steps -/

/-- What the default steps set up, in their order. -/
inductive Integration where
  | codegen
  | storage
  | scanner
  | factory
  | writer
  | frontend
  deriving DecidableEq, Repr

namespace Integration

/-- The integrations in the order of their steps. -/
def all : List Integration :=
  [codegen, storage, scanner, factory, writer, frontend]

/-- The name of the step. -/
def name : Integration → String
  | codegen => "codegen-backend"
  | storage => "storage-client"
  | scanner => "hbase-table-scanner"
  | factory => "hbase-table-factory"
  | writer => "hbase-table-writer"
  | frontend => "frontend-support"

/-- The check of the step. -/
def check (files : FileTree) (config : SubsystemConfig) : Integration → Except Fault Unit
  | codegen => checkCodegen config
  | storage => checkStorage files config
  | scanner => checkScanner files config
  | factory => checkFactory files config
  | writer => checkWriter config
  | frontend => checkFrontend files config

/-- What the step reports when its check finds nothing wrong. -/
def events (config : SubsystemConfig) : Integration → List Log.Event
  | storage => if config.storageConfDir = none then [.storageDefaults] else []
  | frontend => [.classpathVerified config.frontendClasspath.length]
  | _ => []

/-- The step itself. -/
def step (files : FileTree) (integration : Integration) : Step :=
  ⟨integration.name, fun config => .ofCheck (integration.events config) (integration.check files config)⟩

/-- The condition that the step makes. -/
def Accepts (files : FileTree) (config : SubsystemConfig) : Integration → Prop
  | codegen => config.codegenOptLevel.toNat ≤ 3
  | storage => ∀ dir, config.storageConfDir = some dir → files.find dir = .ok .directory
  | scanner => config.hbaseEnabled = true → ∃ dir, config.storageConfDir = some dir ∧
      ReachesFile (files.find (Path.join dir siteFile))
  | factory => config.hbaseEnabled = true → ∃ dir text, config.storageConfDir = some dir ∧
      files.readText (Path.join dir siteFile) = .ok text ∧ quorumProperty.toList <:+: text.toList
  | writer => config.hbaseEnabled = true →
      1 ≤ config.hbaseWriteBufferBytes.toNat ∧ config.hbaseWriteBufferBytes.toNat ≤ 1024 * 1024 * 1024
  | frontend => ∀ entry ∈ config.frontendClasspath, Found files entry

theorem mem_all (integration : Integration) : integration ∈ all := by
  cases integration <;> decide

end Integration

theorem defaultSteps_eq (files : FileTree) :
    defaultSteps files = Integration.all.map (Integration.step files) := rfl

/-! ## §3 What Each Check Accepts -/

theorem ifBound_eq_ok_iff {check : Except Fault Unit} :
    ifBound config check = .ok () ↔ (config.hbaseEnabled = true → check = .ok ()) := by
  rw [ifBound]
  split <;> simp_all

theorem occursIn_iff (part cs : List Char) : occursIn part cs = true ↔ part <:+: cs := by
  induction cs with
  | nil => simp [occursIn, List.isPrefixOf_iff_prefix]
  | cons c rest ih =>
    rw [occursIn, Bool.or_eq_true, List.isPrefixOf_iff_prefix, ih, List.infix_cons_iff]

theorem checkStorage_eq_ok_iff :
    checkStorage files config = .ok () ↔
      ∀ dir, config.storageConfDir = some dir → files.find dir = .ok .directory := by
  rw [checkStorage]
  cases config.storageConfDir with
  | none => simp
  | some dir =>
    simp only [Option.some.injEq, forall_eq']
    split <;> simp_all

theorem checkScanner_eq_ok_iff :
    checkScanner files config = .ok () ↔
      (config.hbaseEnabled = true → ∃ dir, config.storageConfDir = some dir ∧
        ReachesFile (files.find (Path.join dir siteFile))) := by
  rw [checkScanner, ifBound_eq_ok_iff]
  refine imp_congr_right fun _ => ?_
  rw [sitePath]
  -- without a directory there is no file to look for
  cases config.storageConfDir with
  | none => simp [bind, Except.bind]
  | some dir =>
    simp only [bind, Except.bind, Option.some.injEq, exists_eq_left', ← FileTree.isFile_iff]
    split <;> simp_all

theorem checkFactory_eq_ok_iff :
    checkFactory files config = .ok () ↔
      (config.hbaseEnabled = true → ∃ dir text, config.storageConfDir = some dir ∧
        files.readText (Path.join dir siteFile) = .ok text ∧
          quorumProperty.toList <:+: text.toList) := by
  rw [checkFactory, ifBound_eq_ok_iff]
  refine imp_congr_right fun _ => ?_
  rw [sitePath]
  cases config.storageConfDir with
  | none => simp [bind, Except.bind]
  | some dir =>
    simp only [bind, Except.bind, Option.some.injEq, ← occursIn_iff, exists_and_left, exists_eq_left']
    cases files.readText (Path.join dir siteFile) with
    | error fault => simp
    | ok text => simp

theorem checkWriter_eq_ok_iff :
    checkWriter config = .ok () ↔
      (config.hbaseEnabled = true →
        1 ≤ config.hbaseWriteBufferBytes.toNat ∧
          config.hbaseWriteBufferBytes.toNat ≤ 1024 * 1024 * 1024) := by
  rw [checkWriter, ifBound_eq_ok_iff]
  refine imp_congr_right fun _ => ?_
  -- the words are compared as the numbers that they stand for
  simp only [← UInt64.toNat_inj, UInt64.lt_iff_toNat_lt]
  have hmax : maxWriteBuffer.toNat = 1024 * 1024 * 1024 := by decide
  have hzero : (0 : UInt64).toNat = 0 := rfl
  rw [hmax, hzero]
  split
  · simp only [reduceCtorEq, false_iff]
    omega
  · simp only [true_iff]
    omega

theorem checkFrontend_eq_ok_iff :
    checkFrontend files config = .ok () ↔ ∀ entry ∈ config.frontendClasspath, Found files entry := by
  rw [checkFrontend]
  cases hfind : config.frontendClasspath.find? (!entryExists files ·) with
  | none =>
    simp only [true_iff, ← entryExists_iff]
    simpa using hfind
  | some entry =>
    -- the entry that was found is a missing one of the list
    simp only [reduceCtorEq, false_iff, ← entryExists_iff]
    have hmissing := List.find?_some hfind
    intro hall
    simp [hall entry (List.mem_of_find?_eq_some hfind)] at hmissing

/-- What the frontend complains about is the first entry for which nothing exists. -/
theorem checkFrontend_eq_error {fault : Fault} (h : checkFrontend files config = .error fault) :
    ∃ entry, fault = .classpathMissing entry ∧ FirstMissing files config.frontendClasspath entry := by
  rw [checkFrontend] at h
  cases hfind : config.frontendClasspath.find? (!entryExists files ·) with
  | none => simp [hfind] at h
  | some entry =>
    rw [hfind] at h
    obtain ⟨hmissing, before, after, hsplit, hbefore⟩ := List.find?_eq_some_iff_append.1 hfind
    refine ⟨entry, (Except.error.inj h).symm, ⟨before, after, hsplit, fun other hother => ?_⟩, ?_⟩
    · rw [← entryExists_iff]
      simpa using hbefore other hother
    · rw [← entryExists_iff]
      simpa using hmissing

/-- A check finds nothing wrong just when the condition of its step holds. -/
theorem Integration.check_eq_ok_iff (integration : Integration) :
    integration.check files config = .ok () ↔ integration.Accepts files config := by
  cases integration with
  | codegen =>
    rw [Integration.check, Integration.Accepts, checkCodegen]
    split <;> simp_all [UInt8.lt_iff_toNat_lt]
  | storage => exact checkStorage_eq_ok_iff
  | scanner => exact checkScanner_eq_ok_iff
  | factory => exact checkFactory_eq_ok_iff
  | writer => exact checkWriter_eq_ok_iff
  | frontend => exact checkFrontend_eq_ok_iff

/-! ## §4 Sound Settings -/

/-- The settings are ones that the integrations can be set up with, as the file tree is. -/
structure Sound (files : FileTree) (config : SubsystemConfig) : Prop where
  /-- The code generator knows the level. -/
  level : config.codegenOptLevel.toNat ≤ 3
  /-- The storage directory, where one is set, leads to a directory. -/
  storage : ∀ dir, config.storageConfDir = some dir → files.find dir = .ok .directory
  /-- The table bindings, while they are on, have a storage directory with a file in it that holds the
      property, and a write buffer within its bounds. -/
  bindings : config.hbaseEnabled = true →
    (∃ dir text, config.storageConfDir = some dir ∧
      files.find (Path.join dir siteFile) = .ok (.file (Text.bytes text)) ∧
      quorumProperty.toList <:+: text.toList) ∧
    1 ≤ config.hbaseWriteBufferBytes.toNat ∧ config.hbaseWriteBufferBytes.toNat ≤ 1024 * 1024 * 1024
  /-- Every entry of the classpath is found. -/
  classpath : ∀ entry ∈ config.frontendClasspath, Found files entry

/-- The settings are sound just when every step accepts them. -/
theorem sound_iff :
    Sound files config ↔ ∀ integration : Integration, integration.Accepts files config := by
  constructor
  · intro h integration
    cases integration with
    | codegen => exact h.level
    | storage => exact h.storage
    | scanner =>
      intro hon
      obtain ⟨⟨dir, text, hdir, hfind, -⟩, -⟩ := h.bindings hon
      exact ⟨dir, hdir, (FileTree.find_eq_file_iff.1 hfind).1⟩
    | factory =>
      intro hon
      obtain ⟨⟨dir, text, hdir, hfind, hquorum⟩, -⟩ := h.bindings hon
      exact ⟨dir, text, hdir, (FileTree.find_eq_file_iff.1 hfind).2, hquorum⟩
    | writer => exact fun hon => (h.bindings hon).2
    | frontend => exact h.classpath
  · intro h
    refine ⟨h .codegen, h .storage, fun hon => ⟨?_, h .writer hon⟩, h .frontend⟩
    -- the scanner and the factory look at the same file
    obtain ⟨dir, hdir, hfile⟩ := h .scanner hon
    obtain ⟨dir', text, hdir', hread, hquorum⟩ := h .factory hon
    obtain rfl := Option.some.inj (hdir.symm.trans hdir')
    exact ⟨dir, text, hdir, FileTree.find_eq_file_iff.2 ⟨hfile, hread⟩, hquorum⟩

/-- A step that has nothing against the settings is one whose condition holds. -/
theorem step_succeeds_iff (integration : Integration) :
    (integration.step files).Succeeds config ↔ integration.Accepts files config := by
  rw [← integration.check_eq_ok_iff]
  show (Outcome.ofCheck _ (integration.check files config)).result = .ok () ↔ _
  cases integration.check files config <;> simp [Outcome.ofCheck]

/-- The default steps succeed on sound settings, and else name the first one whose condition does not hold. -/
theorem defaultSteps_cases (files : FileTree) (config : SubsystemConfig) :
    (Sound files config ∧
      (run (defaultSteps files) config).result = .ok (Integration.all.map Integration.name)) ∨
    ∃ before failing after fault, Integration.all = before ++ failing :: after ∧
      (∀ passed ∈ before, passed.Accepts files config) ∧ ¬failing.Accepts files config ∧
      failing.check files config = .error fault ∧
      (run (defaultSteps files) config).result = .error (.subsystem failing.name fault.cause) := by
  obtain ⟨hall, hresult⟩ | ⟨before, failing, after, cause, hsteps, hfirst, hresult⟩ :=
    run_cases (defaultSteps files) config
  · refine .inl ⟨sound_iff.2 fun integration => ?_, hresult⟩
    rw [← step_succeeds_iff]
    exact hall _ (List.mem_map_of_mem integration.mem_all)
  · -- the steps before the failing one, and that one, are those of integrations
    rw [defaultSteps_eq] at hsteps
    obtain ⟨passed, rest, hall, rfl, hrest⟩ := List.map_eq_append_iff.1 hsteps
    obtain ⟨failed, others, rfl, rfl, -⟩ := List.map_eq_cons_iff.1 hrest
    cases hcheck : failed.check files config with
    | ok _ =>
      have hpassed := hfirst.failed
      simp [Integration.step, hcheck, Outcome.ofCheck] at hpassed
    | error fault =>
      have hfailed := hfirst.failed
      simp only [Integration.step, hcheck, Outcome.ofCheck, Except.error.injEq] at hfailed
      refine .inr ⟨passed, failed, others, fault, hall, fun integration hmem => ?_, ?_, hcheck, ?_⟩
      · rw [← step_succeeds_iff]
        exact hfirst.passed _ (List.mem_map_of_mem hmem)
      · rw [← failed.check_eq_ok_iff, hcheck]
        simp
      · rw [hresult, ← hfailed]
        rfl

/-! ## §5 Bindings That Are Off -/

/-- The path is the storage directory, or an entry of the classpath stands for it. -/
inductive IsVisited (config : SubsystemConfig) : (path : String) → Prop
  | storage {dir : String} : config.storageConfDir = some dir → IsVisited config dir
  | entry {entry place : String} : entry ∈ config.frontendClasspath → StandsFor entry place →
      IsVisited config place

theorem checkStorage_of_alike
    (h : ∀ dir, config.storageConfDir = some dir → Alike ReachesFile (files.find dir) (files'.find dir)) :
    checkStorage files config = checkStorage files' config := by
  rw [checkStorage, checkStorage]
  cases hdir : config.storageConfDir with
  | none => rfl
  | some dir =>
    dsimp only
    obtain hsame | ⟨hfile, hfile'⟩ := h dir hdir
    · rw [hsame]
    · -- neither file is a directory
      generalize files.find dir = found at hfile
      generalize files'.find dir = found' at hfile'
      cases hfile <;> cases hfile' <;> rfl

theorem found_of_alike
    (h : ∀ place, StandsFor entry place → Alike ReachesFile (files.find place) (files'.find place)) :
    Found files entry ↔ Found files' entry := by
  refine exists_congr fun place => and_congr_right fun hplace => ?_
  obtain hsame | ⟨hfile, hfile'⟩ := h place hplace
  · rw [hsame]
  · generalize files.find place = found at hfile
    generalize files'.find place = found' at hfile'
    cases hfile <;> cases hfile' <;> simp

theorem checkFrontend_of_found
    (h : ∀ entry ∈ config.frontendClasspath, Found files entry ↔ Found files' entry) :
    checkFrontend files config = checkFrontend files' config := by
  have hmissing : config.frontendClasspath.filter (!entryExists files ·) =
      config.frontendClasspath.filter (!entryExists files' ·) := by
    apply List.filter_congr
    intro entry hentry
    apply Bool.eq_iff_iff.2
    simp only [Bool.not_eq_true', ← Bool.not_eq_true, entryExists_iff, h entry hentry]
  rw [checkFrontend, checkFrontend, ← List.head?_filter, ← List.head?_filter, hmissing]

/-- While the bindings are off, their steps have nothing against the settings. -/
theorem bindings_of_off (files : FileTree) (config : SubsystemConfig) (hoff : config.hbaseEnabled = false) :
    checkScanner files config = .ok () ∧ checkFactory files config = .ok () ∧
      checkWriter config = .ok () := by
  have hidle : ¬config.hbaseEnabled = true := by simp [hoff]
  exact ⟨checkScanner_eq_ok_iff.2 (absurd · hidle), checkFactory_eq_ok_iff.2 (absurd · hidle),
    checkWriter_eq_ok_iff.2 (absurd · hidle)⟩

/-- The result is the same with the other tree, whatever the write buffer is. -/
def SameResult (files files' : FileTree) (config : SubsystemConfig) : Prop :=
  ∀ bytes, (run (defaultSteps files') { config with hbaseWriteBufferBytes := bytes }).result =
    (run (defaultSteps files) config).result

/-- While the bindings are off, the result is told by what the visited paths lead to, up to what is in regular
    files. -/
theorem sameResult_of_alike (hoff : config.hbaseEnabled = false)
    (h : ∀ path, IsVisited config path → Alike ReachesFile (files.find path) (files'.find path)) :
    SameResult files files' config := by
  intro bytes
  -- the steps of the bindings are idle in both runs, and the others find the same
  obtain ⟨hscanner, hfactory, hwriter⟩ := bindings_of_off files config hoff
  obtain ⟨hscanner', hfactory', hwriter'⟩ :=
    bindings_of_off files' { config with hbaseWriteBufferBytes := bytes } hoff
  have hcheck : ∀ integration : Integration,
      integration.check files' { config with hbaseWriteBufferBytes := bytes } =
        integration.check files config := by
    intro integration
    cases integration with
    | codegen => rfl
    | storage => exact (checkStorage_of_alike fun dir hdir => h dir (.storage hdir)).symm
    | scanner => exact hscanner'.trans hscanner.symm
    | factory => exact hfactory'.trans hfactory.symm
    | writer => exact hwriter'.trans hwriter.symm
    | frontend =>
      refine (checkFrontend_of_found fun entry hentry => ?_).symm
      exact found_of_alike fun place hplace => h place (.entry hentry hplace)
  -- so each step has the same name and the same result in both runs
  rw [defaultSteps_eq, defaultSteps_eq]
  apply run_result_congr
  rw [List.forall₂_map_left_iff, List.forall₂_map_right_iff, List.forall₂_same]
  intro integration _
  refine ⟨rfl, ?_⟩
  simp only [Integration.step, hcheck]
  cases integration.check files config <;> rfl

/-! ## §6 The Run -/

/-- **The default steps accept just the sound settings.**  Whatever the settings and the file tree are:

    - the result is a success just when the settings are sound;
    - else it is the error of the first step, in the order of the steps, whose own condition does not hold,
      and that of the frontend is about the first entry of the classpath for which nothing exists;
    - while the table bindings are off, the result does not depend on the write buffer, and of the file tree
      only on what the storage directory and the entries of the classpath lead to.  So it does not depend on
      what is in any file, and not on what is at the name of the bindings' file, wherever this is, unless one
      of these paths leads past the name. -/
theorem defaultSteps_accept_sound (files : FileTree) (config : SubsystemConfig) :
    let result := (run (defaultSteps files) config).result
    ((∃ names, result = .ok names) ↔ Sound files config) ∧
    (¬Sound files config →
      ∃ before failing after cause, Integration.all = before ++ failing :: after ∧
        (∀ passed ∈ before, passed.Accepts files config) ∧ ¬failing.Accepts files config ∧
        result = .error (.subsystem failing.name cause) ∧
        (failing = .frontend → ∃ entry, FirstMissing files config.frontendClasspath entry ∧
          cause = .ofMessage ("frontend classpath entry " ++ entry ++ " does not exist"))) ∧
    (config.hbaseEnabled = false → ∀ files',
      ((∀ path, IsVisited config path → Alike ReachesFile (files.find path) (files'.find path)) →
        SameResult files files' config) ∧
      (AlikeAmong (fun _ => True) files files' → SameResult files files' config) ∧
      (AlikeAmong (· ≠ siteFile) files files' → KeepsTo (· ≠ siteFile) files →
        (∀ path, IsVisited config path → siteFile ∉ Path.steps path) →
        SameResult files files' config)) := by
  intro result
  refine ⟨?_, fun hunsound => ?_, fun hoff files' => ⟨sameResult_of_alike hoff, fun halike => ?_,
    fun halike hkeeps hclear => ?_⟩⟩
  · obtain ⟨hsound, hresult⟩ | ⟨before, failing, after, fault, -, -, hrefuses, -, hresult⟩ :=
      defaultSteps_cases files config
    · exact iff_of_true ⟨_, hresult⟩ hsound
    · refine iff_of_false ?_ fun hsound => hrefuses (sound_iff.1 hsound failing)
      rintro ⟨names, hok⟩
      exact absurd (hok.symm.trans hresult) (by simp)
  · obtain ⟨hsound, -⟩ | ⟨before, failing, after, fault, hall, hbefore, hrefuses, hcheck, hresult⟩ :=
      defaultSteps_cases files config
    · exact absurd hsound hunsound
    · refine ⟨before, failing, after, fault.cause, hall, hbefore, hrefuses, hresult, ?_⟩
      rintro rfl
      obtain ⟨entry, rfl, hfirst⟩ := checkFrontend_eq_error hcheck
      exact ⟨entry, hfirst, rfl⟩
  · -- any name is of the kind, so there is nothing to keep to
    have hkeeps : KeepsTo (fun _ => True) files := ⟨fun _ _ => trivial, fun _ _ _ _ _ _ => trivial⟩
    apply sameResult_of_alike hoff
    intro path _
    exact FileTree.find_alike halike hkeeps fun _ _ => trivial
  · apply sameResult_of_alike hoff
    intro path hpath
    apply FileTree.find_alike halike hkeeps
    rintro name hname rfl
    exact hclear path hpath hname

/-- Settings whose bindings are off are accepted without a write buffer, and an empty file of the bindings
    makes no difference to them. -/
theorem defaultSteps_accept_sound_bystander :
    let config : SubsystemConfig := ⟨2, some "conf", false, 0, ["jars/*"]⟩
    let files : FileTree := ⟨[(["conf"], .directory), (["jars"], .directory)], []⟩
    let files' : FileTree := { files with entries := files.entries ++ [(["conf", siteFile], .file [])] }
    (∃ names, (run (defaultSteps files) config).result = .ok names) ∧ SameResult files files' config := by
  intro config files files'
  obtain ⟨hok, -, hoff⟩ := defaultSteps_accept_sound files config
  have hsound : Sound files config := by
    constructor
    · decide
    · intro dir hdir
      obtain rfl := Option.some.inj hdir
      rfl
    · intro hon
      cases hon
    · intro entry hentry
      obtain rfl := List.mem_singleton.1 hentry
      exact entryExists_iff.1 rfl
  refine ⟨hok.2 hsound, (hoff rfl files').2.2 ?_ ?_ ?_⟩
  · apply FileTree.alikeAmong_append
    intro entry hentry
    obtain rfl := List.mem_singleton.1 hentry
    exact ⟨siteFile, by simp, by simp⟩
  · -- there are no links
    apply FileTree.keepsTo_of_links
    · exact List.forall_mem_nil _
    · intro entry hentry target hlink
      simp only [files, List.mem_cons, List.not_mem_nil, or_false] at hentry
      obtain rfl | rfl := hentry <;> cases hlink
  · intro path hpath
    cases hpath with
    | storage hdir =>
      obtain rfl := Option.some.inj hdir
      decide
    | entry hentry hplace =>
      obtain rfl := List.mem_singleton.1 hentry
      rw [standsFor_iff.1 hplace]
      decide

end RoleDaemon.Subsystem
