import RoleDaemon.Cli.Process

/-!
# The Command Line Program

The program reads its surroundings, as far as the daemon looks at them, and writes what a process of
the daemon writes.  The end of the standard input stands for the signal to terminate.

Main definitions:
- `main`: the program
-/

namespace RoleDaemon

/-! ## §1 Surroundings -/

/-- The variables among the given names that are set. -/
def readVariables (names : List String) : IO Variables := do
  let entries ← names.filterMapM fun name => do
    return (← IO.getEnv name).map fun value => (name, value)
  return ⟨entries⟩

/-- What is at a path: a file that may be read or not, a directory, or nothing. -/
def readEntry (path : String) : IO (Option FileEntry) := do
  try
    let bytes ← IO.FS.readBinFile path
    return some (.file bytes.toList)
  catch e =>
    match e with
    | .noFileOrDirectory _ _ _ => return none
    | .permissionDenied _ _ _ => return some .closedFile
    | _ => return some .directory

/-- The tree with what is at the given paths. -/
def readFiles (files : FileTree) (paths : List String) : IO FileTree :=
  paths.foldlM
    (fun files path => do
      match ← readEntry path with
      | some entry => return files.add path entry
      | none => return files)
    files

/-- The name that the operating system has for the machine. -/
def readMachineName : IO (Option String) := do
  match ← readEntry "/proc/sys/kernel/hostname" with
  | some (.file bytes) => return FileTree.decodeText? bytes
  | _ => return none

/-- The configuration that a command line leads to, where it leads to one. -/
def configOf? (arguments : List String) (host : Host) : Option Config :=
  match Cli.readArguments arguments host.vars with
  | .error _ => none
  | .ok settings => (Config.load host settings.configFile? settings.overrides).toOption

/-- The file that a command line names for the configuration. -/
def configFileOf (arguments : List String) (vars : Variables) : List String :=
  match Cli.readArguments arguments vars with
  | .error _ => []
  | .ok settings => settings.configFile?.toList

/-- The surroundings of a process, as far as it looks at them: first the file of its configuration,
    then the variables that the file refers to, and then the files that the configuration names. -/
def readHost (arguments : List String) : IO Host := do
  let vars ← readVariables Cli.variableNames
  let empty : FileTree := FileTree.addDirectories ⟨[], ["work"]⟩ ["work"]
  let files ← readFiles empty (configFileOf arguments vars)
  let host : Host := ⟨vars, files, ← readMachineName⟩
  match configOf? arguments host with
  | none => return host
  | some config =>
    let more ← readVariables config.references
    let host := { host with vars := ⟨vars.entries ++ more.entries⟩ }
    match configOf? arguments host with
    | none => return host
    | some config =>
      return { host with files := ← readFiles host.files (Subsystem.pathsOf config.subsystems) }

/-! ## §2 The Program -/

/-- Waits for the end of the standard input. -/
partial def awaitEnd (input : IO.FS.Stream) : IO Unit := do
  let line ← input.getLine
  if line.isEmpty then return
  awaitEnd input

def writeLines (lines : List String) : IO Unit := do
  let output ← IO.getStdout
  for line in lines do
    output.putStrLn line
  output.flush

/-- A process of the daemon, and its exit status. -/
def runProcess (arguments : List String) : IO UInt32 := do
  let host ← readHost arguments
  let now : Timestamp := ⟨"1970-01-01T00:00:00"⟩
  let started := Cli.run arguments host now none []
  writeLines started.output
  match started.complaint? with
  | some complaint => IO.eprintln complaint
  | none => pure ()
  match started.exitStatus? with
  | some status => return status.toUInt32
  | none =>
    awaitEnd (← IO.getStdin)
    let ended := Cli.run arguments host now (some .terminate) []
    writeLines (ended.output.drop started.output.length)
    return (ended.exitStatus?.getD Cli.fatalStatus).toUInt32

end RoleDaemon

/-- The program. -/
def main (arguments : List String) : IO UInt32 :=
  RoleDaemon.runProcess arguments
