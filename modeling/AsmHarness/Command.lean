import AsmHarness.CommandLine.Parser
import AsmHarness.Config.File
import AsmHarness.Descriptor.Load
import AsmHarness.Pass

/-!
# Commands

A command is carried out with the configuration that follows from the command line and the
configuration file. It ends with a status, or with an error if it could not be carried out at all.
-/

namespace AsmHarness

/-- Why a command could not be carried out. -/
inductive CommandError where
  /-- There are no tests in the file that was named. -/
  | unresolvable (path : Path)
  /-- The configuration cannot be used. -/
  | config (cause : ConfigError)
  /-- The source of a new test cannot be made. -/
  | notCreated (path : Path) (cause : OsError)
  /-- The descriptor of a new test cannot be written. -/
  | notWritten (path : Path) (cause : OsError)
  deriving DecidableEq, Repr

namespace CommandError

/-- The cause in words. Those of a parser, which follow behind a colon where it has refused a
configuration, are left out. -/
def message : CommandError → String
  | .unresolvable path => "Can't obtain test descriptors from " ++ path
  | .config (.unreadable path cause) => "Failed to read " ++ path ++ ": " ++ cause.message
  | .config (.invalid path) => "Invalid configuration in " ++ path
  | .notCreated path cause => "Failed to create " ++ path ++ ": " ++ cause.message
  | .notWritten path cause => "Failed to write " ++ path ++ ": " ++ cause.message

/-- The code by which the cause is looked up. -/
def code : CommandError → String
  | .unresolvable _ => "nasm_t::unresolvable"
  | .config (.invalid _) => "nasm_t::config"
  | .config (.unreadable ..) | .notCreated .. | .notWritten .. => "nasm_t::io"

/-- What can be done about it. -/
def help? : CommandError → Option String
  | .unresolvable _ =>
    some "check that the file exists and holds at least one record with a description"
  | _ => none

/-- The exit code of the harness. -/
def exitCode : CommandError → Nat
  | .unresolvable _ => 2
  | _ => 1

end CommandError

/-- The tests of a file, or all tests if no file is named. A file that is named must hold tests. -/
def selectTests (directory : Path) (test : Option Path) :
    ExceptT CommandError Activity (List Descriptor) := do
  match test with
  | none => Descriptor.loadDirectory (← get) directory
  | some path =>
    let descriptors ← Descriptor.loadFile (← get) path
    if descriptors.isEmpty then
      note (.banner .abort path (some "Can't obtain test descriptors"))
      throw (.unresolvable path)
    else return descriptors

/-- What the log says at the end of a pass. -/
def Summary.message (s : Summary) : Task → Log.Message
  | .verify => .ran s.passed s.failed s.tolerated s.skipped
  | .update => .updated s.updated s.failed s.skipped

/-- Does a task with the tests of a file, or with all tests. -/
def runTask (task : Task) (host : Host) (config : Config) (test : Option Path) :
    ExceptT CommandError Activity Status := do
  let descriptors ← selectTests config.directory test
  let summary ← passAll task host config descriptors
  Noted.log (summary.message task)
  return summary.status

/-- Lists some tests. -/
def listTests : List Descriptor → Activity Unit
  | [] => pure ()
  | d :: rest => do
    note (.listed d.name d.description)
    listTests rest

/-- Makes a new test in a folder. A source that exists is kept. -/
def createTest (directory : Path) (s : Scaffold) : ExceptT CommandError Activity Unit := do
  let sourcePath := directory.join s.sourceName
  note (.line ("\tCreating " ++ sourcePath))
  match (← get).touch sourcePath with
  | .error cause => throw (.notCreated sourcePath cause)
  | .ok files =>
    set files
    let descriptorPath := directory.join (s.id ++ ".json")
    note (.line ("\tFilling descriptor " ++ descriptorPath))
    match files.write descriptorPath (s.render s.sourceName).toUTF8 with
    | .error cause => throw (.notWritten descriptorPath cause)
    | .ok files => set files

/-- Carries out a command with a configuration. -/
def Command.perform (command : Command) (host : Host) (config : Config) :
    ExceptT CommandError Activity Status := do
  match command with
  | .run test _ => runTask .verify host config test
  | .update test => runTask .update host config test
  | .list =>
    note (.listed "Name" "Description")
    let descriptors ← Descriptor.loadDirectory (← get) config.directory
    listTests descriptors
    return .success
  | .new scaffold =>
    createTest config.directory scaffold
    return .success

/-- The settings that a command line gives. -/
def CommandLine.settings (line : CommandLine) : Settings :=
  { directory := line.directory
    assembler := line.assembler
    stop := match line.command with
      | .run _ stop => stop
      | _ => none }

/-- The settings of the configuration file that a command line asks for. -/
def loadSettings (named : Option Path) : ExceptT CommandError Activity Settings := do
  match ← (Settings.discover (← get) named).run with
  | .ok settings => return settings
  | .error cause => throw (.config cause)

/-- Carries out what a command line asks for. -/
def CommandLine.execute (line : CommandLine) (host : Host) :
    ExceptT CommandError Activity Status := do
  let file ← loadSettings line.config
  line.command.perform host (Config.resolve file line.settings)

end AsmHarness
