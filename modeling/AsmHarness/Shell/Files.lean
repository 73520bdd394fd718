import AsmHarness.Shell.State

/-!
# Commands on files

The commands a script can use to read, copy, move, make and remove files.
-/

namespace AsmHarness.Shell

/-- Writes a message of a command that is no part of the shell. -/
def report (text : String) : Run Unit := do
  let _ ← emit 2 (text ++ "\n").toUTF8

/-- Does something with each of some files; the result is a failure if one of them failed. -/
def forEach (action : String → Run Nat) : List String → Run Nat
  | [] => return 0
  | name :: rest => do
    let status ← action name
    return max status (← forEach action rest)

/-- Changes the files by a request, or writes a message if it is turned down. -/
def changeFiles (request : FileTree → Except OsError FileTree) (message : String) : Run Nat := do
  match request (← get).files with
  | .ok files =>
    modify fun s => { s with files }
    return 0
  | .error cause =>
    report (message ++ ": " ++ cause.text)
    return 1

/-- Writes files, or the input, one after the other. -/
def cat (names : List String) : Run Nat := do
  if ((← get).sinks.lookup 1).isNone then
    report "cat: standard output: Bad file descriptor"
    return 1
  forEach (fun name => do
    if name = "-" then
      let bytes := (← get).input
      modify fun s => { s with input := [] }
      return if ← emit 1 ⟨bytes.toArray⟩ then 0 else 1
    else match (← get).files.read name with
      | .ok content => return if ← emit 1 content then 0 else 1
      | .error cause =>
        report ("cat: " ++ name ++ ": " ++ cause.text)
        return 1) (if names.isEmpty then ["-"] else names)

/-- Removes files. -/
def remove (args : List String) : Run Nat :=
  let quiet := args.contains "-f"
  forEach (fun name => do
    if quiet && !(← get).files.contains name then return 0
    else changeFiles (·.remove name) ("rm: cannot remove '" ++ name ++ "'"))
    (args.filter (· ≠ "-f"))

/-- Makes files that do not exist. -/
def touch (names : List String) : Run Nat :=
  forEach (fun name => do
    if (← get).files.contains name then return 0
    else changeFiles (·.touch name) ("touch: cannot touch '" ++ name ++ "'")) names

/-- Where a file ends up that is copied or moved: in a folder, it keeps its name. -/
def destination (files : FileTree) (source target : Path) : Path :=
  match files.node target with
  | .ok (.folder ..) => target.join (source.fileName?.getD "")
  | _ => target

/-- Copies a file. -/
def copy (source target : Path) : Run Nat := do
  let files := (← get).files
  match files.read source with
  | .error .isADirectory =>
    report ("cp: -r not specified; omitting directory '" ++ source ++ "'")
    return 1
  | .error cause =>
    report ("cp: cannot stat '" ++ source ++ "': " ++ cause.text)
    return 1
  | .ok content =>
    let target := destination files source target
    changeFiles (·.write target content) ("cp: cannot create regular file '" ++ target ++ "'")

/-- Moves a file. -/
def move (source target : Path) : Run Nat := do
  let files := (← get).files
  if files.contains source then
    let target := destination files source target
    changeFiles (·.rename source target)
      ("mv: cannot move '" ++ source ++ "' to '" ++ target ++ "'")
  else
    report ("mv: cannot stat '" ++ source ++ "': " ++ OsError.notFound.text)
    return 1

/-- Makes a folder. -/
def makeFolder (name : String) : Run Nat :=
  changeFiles (fun files => do
    match ← files.goal name with
    | .back _ => .error .fileExists
    | .entry folder name _ =>
      if (files.get? (folder ++ [name])).isSome then .error .fileExists
      else if files.mayChange folder then .ok (files.put (folder ++ [name]) .emptyFolder)
      else .error .permissionDenied)
    ("mkdir: cannot create directory '" ++ name ++ "'")

/-- Runs a command on files by name, if there is one of the name. -/
def runFileCommand? (name : String) (args : List String) : Option (Run Nat) :=
  match name, args with
  | "cat", names => some (cat names)
  | "rm", args => some (remove args)
  | "touch", names => some (touch names)
  | "cp", [source, target] => some (copy source target)
  | "mv", [source, target] => some (move source target)
  | "mkdir", names => some (forEach makeFolder names)
  | _, _ => none

end AsmHarness.Shell
