import RoleDaemon.Files.Tree
import RoleDaemon.Subsystem.Basic

/-!
# The Default Subsystem Steps

Six steps check the settings of the native integrations: the code generator, the storage client, the
scanner, the factory and the writer of the table bindings, and the frontend.  The three steps of the
bindings have nothing to check while the bindings are off.

Main definitions:
- `Subsystem.Fault`: what a default step can find wrong
- `Subsystem.defaultSteps`: the steps, in order
-/

namespace RoleDaemon.Subsystem

open Text

/-! ## §1 Faults -/

/-- What a default step can find wrong. -/
inductive Fault where
  | unsupportedOptLevel (level : UInt8)
  | storageUnreachable (dir : String) (fault : FileFault)
  | storageNotDirectory (dir : String)
  | storageRequired
  | siteMissing (site : String)
  | siteUnreadable (site : String) (fault : FileFault)
  | quorumUnset (site : String)
  | writeBufferOutOfRange (bytes : UInt64)
  | classpathMissing (entry : String)
  deriving DecidableEq, Repr

/-- The file in the storage directory that the table bindings read. -/
def siteFile : String := "hbase-site.xml"

/-- The property that the file has to set. -/
def quorumProperty : String := "hbase.zookeeper.quorum"

/-- The largest write buffer of the table writer. -/
def maxWriteBuffer : UInt64 := 1073741824

/-- A fault in words. -/
def Fault.cause : Fault → Cause
  | .unsupportedOptLevel level =>
    .ofMessage ("unsupported code generation optimization level " ++ decimalText level.toNat ++
      " (expected 0..=3)")
  | .storageUnreachable dir fault =>
    (Cause.ofMessage fault.message).context ("storage configuration directory " ++ dir)
  | .storageNotDirectory dir =>
    .ofMessage ("storage configuration path " ++ dir ++ " is not a directory")
  | .storageRequired => .ofMessage "HBase bindings require a storage configuration directory"
  | .siteMissing site => .ofMessage ("HBase configuration " ++ site ++ " not found")
  | .siteUnreadable site fault =>
    (Cause.ofMessage fault.message).context ("Failed to read HBase configuration " ++ site)
  | .quorumUnset site =>
    .ofMessage ("HBase configuration " ++ site ++ " does not set " ++ quorumProperty)
  | .writeBufferOutOfRange bytes =>
    .ofMessage ("HBase write buffer of " ++ decimalText bytes.toNat ++ " bytes is outside 1..=" ++
      decimalText maxWriteBuffer.toNat)
  | .classpathMissing entry => .ofMessage ("frontend classpath entry " ++ entry ++ " does not exist")

/-! ## §2 Checks -/

/-- The level is one that the code generator knows. -/
def checkCodegen (config : SubsystemConfig) : Except Fault Unit :=
  if 3 < config.codegenOptLevel then .error (.unsupportedOptLevel config.codegenOptLevel)
  else .ok ()

/-- The storage directory, where one is set, is a directory. -/
def checkStorage (files : FileTree) (config : SubsystemConfig) : Except Fault Unit :=
  match config.storageConfDir with
  | none => .ok ()
  | some dir =>
    match files.find dir with
    | .error fault => .error (.storageUnreachable dir fault)
    | .ok .directory => .ok ()
    | .ok _ => .error (.storageNotDirectory dir)

/-- The path of the file that the table bindings read. -/
def sitePath (config : SubsystemConfig) : Except Fault String :=
  match config.storageConfDir with
  | none => .error .storageRequired
  | some dir => .ok (Path.join dir siteFile)

/-- A check that is made only while the table bindings are on. -/
def ifBound (config : SubsystemConfig) (check : Except Fault Unit) : Except Fault Unit :=
  if config.hbaseEnabled then check else .ok ()

/-- The file of the table bindings is there. -/
def checkScanner (files : FileTree) (config : SubsystemConfig) : Except Fault Unit :=
  ifBound config do
    let site ← sitePath config
    if files.isFile site then .ok () else .error (.siteMissing site)

/-- Whether the first text occurs in the second. -/
def occursIn (part cs : List Char) : Bool :=
  part.isPrefixOf cs || match cs with
    | [] => false
    | _ :: rest => occursIn part rest

/-- The file of the table bindings sets the property that the factory needs. -/
def checkFactory (files : FileTree) (config : SubsystemConfig) : Except Fault Unit :=
  ifBound config do
    let site ← sitePath config
    match files.readText site with
    | .error fault => .error (.siteUnreadable site fault)
    | .ok contents =>
      if occursIn quorumProperty.toList contents.toList then .ok () else .error (.quorumUnset site)

/-- The write buffer is within its bounds. -/
def checkWriter (config : SubsystemConfig) : Except Fault Unit :=
  ifBound config <|
    let bytes := config.hbaseWriteBufferBytes
    if bytes = 0 ∨ maxWriteBuffer < bytes then .error (.writeBufferOutOfRange bytes) else .ok ()

/-- The path that an entry of the classpath stands for: a name `*` at its end stands for everything in
    the directory before it, and for the working directory where nothing is before it. -/
def placeOfEntry (entry : String) : String :=
  if Path.lastName? entry = some "*" then
    if Path.parent entry = "" then "." else Path.parent entry
  else entry

/-- What an entry of the classpath stands for exists. -/
def entryExists (files : FileTree) (entry : String) : Bool :=
  files.exists? (placeOfEntry entry)

/-- Every entry of the classpath exists. -/
def checkFrontend (files : FileTree) (config : SubsystemConfig) : Except Fault Unit :=
  match config.frontendClasspath.find? (!entryExists files ·) with
  | some entry => .error (.classpathMissing entry)
  | none => .ok ()

/-! ## §3 Steps -/

/-- The outcome of a check, with the events that it reports when it finds nothing wrong. -/
def Outcome.ofCheck (events : List Log.Event) : Except Fault Unit → Outcome
  | .ok () => ⟨events, .ok ()⟩
  | .error fault => ⟨[], .error fault.cause⟩

/-- The default steps, in the order in which they run. -/
def defaultSteps (files : FileTree) : List Step := [
  ⟨"codegen-backend", fun config => .ofCheck [] (checkCodegen config)⟩,
  ⟨"storage-client", fun config =>
    .ofCheck (if config.storageConfDir = none then [.storageDefaults] else [])
      (checkStorage files config)⟩,
  ⟨"hbase-table-scanner", fun config => .ofCheck [] (checkScanner files config)⟩,
  ⟨"hbase-table-factory", fun config => .ofCheck [] (checkFactory files config)⟩,
  ⟨"hbase-table-writer", fun config => .ofCheck [] (checkWriter config)⟩,
  ⟨"frontend-support", fun config =>
    .ofCheck [.classpathVerified config.frontendClasspath.length] (checkFrontend files config)⟩]

/-- The paths that the default steps look at. -/
def pathsOf (config : SubsystemConfig) : List String :=
  let storage := match config.storageConfDir with
    | some dir => [dir, Path.join dir siteFile]
    | none => []
  storage ++ config.frontendClasspath.map placeOfEntry

end RoleDaemon.Subsystem
