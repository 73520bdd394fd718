import AsmHarness.Command
import AsmHarness.Shell.Host

/-!
# The program

The command line is read, the files of the working directory are taken up, and the command is
carried out on them. What changed is then stored, the report goes to the output, and the log to the
output for messages.
-/

namespace AsmHarness.Main

/-- What is said about the program when help is asked for. -/
def usage : String :=
  "Usage: nasm-t [-d DIRECTORY] [--nasm NASM] [--config CONFIG] [-v] COMMAND\n\n" ++
    "Commands:\n" ++
    "  run     Run test cases [-t TEST] [--stop y|n]\n" ++
    "  update  Update test cases with new compiler [-t TEST]\n" ++
    "  list    List test cases\n" ++
    "  new     Add a new test case --id ID"

/-- What is said about the program when the version is asked for. -/
def version : String := "nasm-t 0.1.0"

/-- What is wrong with a command line, in words. -/
def complaint : CommandLineError → String
  | .unknownArgument => "unexpected argument"
  | .invalidValue => "invalid or missing value"
  | .valueValidation => "value that cannot be read"
  | .tooManyValues => "unexpected value"
  | .argumentConflict => "argument given more than once"
  | .missingRequiredArgument => "required argument not provided"
  | .invalidSubcommand => "unrecognized command"
  | .missingSubcommand => "command required"
  | .nothingGiven => "nothing to do"
  | .helpRequested => "help"
  | .versionRequested => "version"

/-- Whether a file says how it is to be run. -/
def isScript (content : ByteArray) : Bool :=
  content[0]? = some 35 && content[1]? = some 33

/-- The entries of a folder. -/
partial def loadEntries (folder : String) : IO (List (String × Node)) := do
  let mut entries := []
  for entry in ← (← IO.FS.realPath folder).readDir do
    let path := folder ++ "/" ++ entry.fileName
    if ← entry.path.isDir then
      entries := (entry.fileName, .folder (← loadEntries path) .folder) :: entries
    else
      let content ← IO.FS.readBinFile path
      entries := (entry.fileName, .file content { executable := isScript content }) :: entries
  return entries

/-- Stores the entries of a folder where they differ from what is there. -/
partial def storeEntries (folder : String) (before after : List (String × Node)) : IO Unit := do
  for (name, node) in after do
    let path := folder ++ "/" ++ name
    match node, before.lookup name with
    | .file content _, some (.file old _) =>
      if content.data ≠ old.data then IO.FS.writeBinFile path content
    | .file content _, _ => IO.FS.writeBinFile path content
    | .folder entries _, some (.folder old _) => storeEntries path old entries
    | .folder entries _, _ =>
      IO.FS.createDirAll path
      storeEntries path [] entries
  for (name, node) in before do
    if (after.lookup name).isNone then
      match node with
      | .file .. => IO.FS.removeFile (folder ++ "/" ++ name)
      | .folder .. => IO.FS.removeDirAll (folder ++ "/" ++ name)

/-- The variables that programs inherit. -/
def inherited : IO (List (String × String)) := do
  let mut environment := []
  for name in ["PATH", "HOME", "LANG", "NASMENV"] do
    if let some value ← IO.getEnv name then environment := environment ++ [(name, value)]
  return environment

/-- The files of the working directory and the folders above it, but nothing else in these. -/
def filesAt (origin : Location) (entries : List (String × Node)) : FileTree :=
  ((FileTree.empty.makeFolders origin.dropLast).put origin (.folder entries .folder)).seenFrom origin

/-- Carries out a command line on the files of the working directory. -/
def carryOut (line : CommandLine) : IO UInt32 := do
  let before ← loadEntries "."
  let origin := Path.parts (← IO.currentDir).toString
  let host := Shell.host (← inherited)
  let ⟨(result, files), journal⟩ := (line.execute host).run.run (filesAt origin before)
  if let some (.folder after _) := files.get? origin then storeEntries "." before after
  IO.print (Report.render journal.report)
  for message in journal.log do
    if line.verbose || message.level = .warn then
      IO.eprintln ("[" ++ message.level.name ++ "] " ++ message.text)
  match result with
  | .ok status => return status.exitCode.toUInt32
  | .error e =>
    IO.eprintln (e.code ++ ": " ++ e.message)
    if let some help := e.help? then IO.eprintln ("help: " ++ help)
    return e.exitCode.toUInt32

end AsmHarness.Main

/-- Runs the harness. -/
def main (arguments : List String) : IO UInt32 := do
  match AsmHarness.CommandLine.ofArguments arguments with
  | .ok line => AsmHarness.Main.carryOut line
  | .error e =>
    match e with
    | .helpRequested => IO.println AsmHarness.Main.usage
    | .versionRequested => IO.println AsmHarness.Main.version
    | _ => IO.eprintln ("error: " ++ AsmHarness.Main.complaint e ++ "\n\n" ++ AsmHarness.Main.usage)
    return e.exitCode.toUInt32
