import AsmHarness.Host
import AsmHarness.Shell.Run
import AsmHarness.Text.Lines
import AsmHarness.Text.Utf8

/-!
# A host of scripts

On this host the programs are scripts among the files. A program that is named by a path is the file
there; another one is looked for in the folders that the variable `PATH` lists.
-/

namespace AsmHarness.Shell

/-- The programs that scripts can name in their first line as the one that runs them. -/
def interpreters : List String := ["/bin/sh", "/usr/bin/sh", "/bin/dash", "/usr/bin/dash"]

/-- How deep the commands of a script may nest, and how many rounds each of its loops may take. -/
def stepLimit : Nat := 10000

/-- The text of the script at a path, or why there is none that can be started. -/
def scriptAt (files : FileTree) (path : Path) : Except OsError String := do
  match ← files.node path with
  | .folder .. => .error .permissionDenied
  | .file content mode =>
    if !mode.executable then .error .permissionDenied
    else
      let text := Utf8.decode content
      match (Text.lines text).headD "" |>.toList with
      | '#' :: '!' :: line =>
        let line := line.dropWhile fun c => c = ' ' || c = '\t'
        let name := line.takeWhile fun c => c ≠ ' ' && c ≠ '\t'
        if interpreters.contains (.ofList name) then .ok text else .error .notFound
      | _ => .error .notAProgram

/-- The first script of a name in some folders. A file that may not be started is passed over, but
remembered if there is nothing else. -/
def scriptIn (files : FileTree) (name : String) (cause : OsError) :
    List Path → Except OsError (Path × String)
  | [] => .error cause
  | folder :: rest =>
    let path := if folder = "" then name else Path.join folder name
    match scriptAt files path with
    | .ok text => .ok (path, text)
    | .error .permissionDenied => scriptIn files name .permissionDenied rest
    | .error .notFound => scriptIn files name cause rest
    | .error .notADirectory => scriptIn files name cause rest
    | .error other => .error other

/-- The folders that programs are looked for in. -/
def searchPath (environment : Environment) : List Path :=
  match environment.get? "PATH" with
  | none => []
  | some text => (text.toList.splitOn ':').map String.ofList

/-- The path and the text of the script that is to be started. -/
def findScript (launch : Launch) (files : FileTree) : Except OsError (Path × String) := do
  if launch.program = "" then .error .notFound
  else if launch.program.toList.contains '/' then
    return (launch.program, ← scriptAt files launch.program)
  else scriptIn files launch.program .notFound (searchPath launch.environment)

/-- What a script begins with. Variables whose names are no names of the shell are not seen by it.
-/
def initialState (launch : Launch) (path : Path) (files : FileTree) : State :=
  { name := path
    arguments := launch.args
    environment := launch.environment.keep fun name => isName name.toList
    files }

/-- How a script ends. -/
def endingOf : Except Stop Nat → Ending
  | .ok status => .exited status
  | .error (.exit code) => .exited code
  | .error (.signal number) => .killed number
  | .error .outOfFuel => .killed 9
  | .error _ => .exited 0

/-- Runs a script to its end. -/
def runScript (s : State) (script : String) : Finished :=
  let action : Run Nat :=
    match parse? script with
    | some command => run stepLimit command
    | none => do
      complain (Text.lines script).length "Syntax error"
      throw (.exit 2)
  let (result, s) := action.run.run s
  ⟨endingOf result, s.stdout, s.stderr, s.files⟩

/-- The host whose programs are scripts. -/
def host (environment : List (String × String)) : Host where
  environment := environment
  start launch files := do
    let (path, script) ← findScript launch files
    return runScript (initialState launch path files) script

end AsmHarness.Shell
