import AsmHarness.Shell.Builtin
import AsmHarness.Shell.Expansion
import AsmHarness.Shell.Parser

/-!
# Running scripts

A command is run with a supply of fuel, which bounds its depth and the rounds of each of its loops,
since loops need not end. Its result is an exit code, which decides what is run next.
-/

namespace AsmHarness.Shell

/-! ## Redirections -/

/-- Connects a numbered output. -/
def connect (number : Nat) (sink : Option Sink) : Run Unit :=
  modify fun s =>
    let others := s.sinks.filter (·.1 ≠ number)
    { s with sinks := others ++ (sink.map (number, ·)).toList }

/-- What a message calls the cause for which a file cannot be opened. -/
def openCause (creating : Bool) : OsError → String
  | .notFound | .notADirectory => if creating then "Directory nonexistent" else "No such file"
  | cause => cause.text

/-- Connects an output with a file that a request makes ready. -/
def redirectTo (line number : Nat) (path : String)
    (request : FileTree → Except OsError FileTree) : Run Bool := do
  let opened (files : FileTree) : Except OsError (FileTree × Location) := do
    let files ← request files
    return (files, ← files.locate path)
  match opened (← get).files with
  | .ok (files, location) =>
    modify fun s => { s with files }
    connect number (some (.file location))
    return true
  | .error cause =>
    complain line ("cannot create " ++ path ++ ": " ++ openCause true cause)
    return false

/-- Carries out a redirection; the result says whether that was possible. -/
def redirect (line : Nat) (r : Redirection) : Run Bool := do
  let target ← expandText line r.target
  match r.direction with
  | .write => redirectTo line r.number target fun files => files.write target .empty
  | .append => redirectTo line r.number target fun files => files.touch target
  | .read =>
    match (← get).files.read target with
    | .ok content =>
      modify fun s => { s with input := content.toList }
      return true
    | .error cause =>
      complain line ("cannot open " ++ target ++ ": " ++ openCause false cause)
      return false
  | .duplicate =>
    match target.toList with
    | ['-'] =>
      connect r.number none
      return true
    | [c] =>
      if c.isDigit then
        match (← get).sinks.lookup (Text.decimal [c]) with
        | some sink =>
          connect r.number (some sink)
          return true
        | none =>
          complain line (target ++ ": Bad file descriptor")
          return false
      else
        complain line "Syntax error: Bad fd number"
        throw (.exit 2)
    | _ =>
      complain line "Syntax error: Bad fd number"
      throw (.exit 2)

/-- Carries out redirections up to the first that is not possible. -/
def redirectAll (line : Nat) : List Redirection → Run Bool
  | [] => return true
  | r :: rest => do
    if ← redirect line r then redirectAll line rest else return false

/-- Does something with redirections, which do not last. -/
def withRedirections (line : Nat) (list : List Redirection) (action : Run Nat) : Run Nat := do
  let before ← get
  let status ← if ← redirectAll line list then action else pure 2
  let reads := list.any (·.direction = .read)
  modify fun s =>
    { s with sinks := before.sinks, input := if reads then before.input else s.input }
  return status

/-! ## Commands -/

/-- The values that assignments give to variables. -/
def expandAssignments (line : Nat) : List (String × Word) → Run (List (String × String))
  | [] => return []
  | (name, word) :: rest => do
    let value ← expandText line word
    return (name, value) :: (← expandAssignments line rest)

/-- The environment with the variables that were assigned as they were before. -/
def restored (before : Environment) (assigned : List (String × String))
    (environment : Environment) : Environment :=
  assigned.foldl (fun environment (name, _) => environment.change (name, before.get? name))
    environment

/-- Runs a command that is made of words. Assignments in front of a name last only if the command is
part of the shell itself. -/
def runSimple (command : SimpleCommand) : Run Nat := do
  let fields ← expandWords command.line command.words
  withRedirections command.line command.redirections do
    let assigned ← expandAssignments command.line command.assignments
    match fields with
    | [] =>
      assignAll assigned
      return 0
    | name :: args =>
      let before := (← get).environment
      assignAll assigned
      let status ← runNamed command.line name args
      unless isSpecial name do
        modify fun s => { s with environment := restored before assigned s.environment }
      return status

/-- Runs the body of a loop. The result is none if the loop is to be left. A loop that is inside no
other is the last that can be left. -/
def runBody (body : Run Nat) : Run (Option Nat) := do
  let outer := (← get).loops
  modify fun s => { s with loops := outer + 1 }
  let status ← tryCatch (some <$> body) fun
    | .leave (n + 2) => if outer = 0 then return none else throw (.leave (n + 1))
    | .leave _ => return none
    | .goOn (n + 2) => if outer = 0 then return some 0 else throw (.goOn (n + 1))
    | .goOn _ => return some 0
    | other => throw other
  modify fun s => { s with loops := outer }
  return status

/-- Runs a body for each of some values of a variable. -/
def runEach (name : String) (body : Run Nat) (status : Nat) : List String → Run Nat
  | [] => return status
  | value :: rest => do
    assign name value
    match ← runBody body with
    | some status => runEach name body status rest
    | none => return 0

/-- Runs a body as long as a test holds. -/
def runWhile (test : Run Bool) (body : Run Nat) : (fuel status : Nat) → Run Nat
  | 0, _ => throw .outOfFuel
  | fuel + 1, status => do
    if ← test then
      match ← runBody body with
      | some status => runWhile test body fuel status
      | none => return 0
    else return status

/-- Whether a text matches one of several patterns. -/
def matchesAny (line : Nat) (text : List Char) : List Word → Run Bool
  | [] => return false
  | word :: rest => do
    if globMatches (← expandPattern line word) text then return true
    else matchesAny line text rest

/-- The body of the first branch that a text matches. -/
def branchFor (text : List Char) : List (List Word × Command) → Run (Option Command)
  | [] => return none
  | (found, body) :: rest => do
    if ← matchesAny 0 text found then return some body else branchFor text rest

/-- Runs something whose changes to variables and arguments do not last, and whose end is not the
end of the script. -/
def runApart (body : Run Nat) : Run Nat := do
  let before ← get
  let status ← tryCatch body fun
    | .exit code => return code
    | .leave _ | .goOn _ => return 0
    | other => throw other
  modify fun s => { s with environment := before.environment, arguments := before.arguments }
  return status

/-- Runs a command, and notes its exit code. -/
def run : (fuel : Nat) → Command → Run Nat
  | 0, _ => throw .outOfFuel
  | fuel + 1, command => do
    let status ← match command with
      | .empty => pure 0
      | .simple command => runSimple command
      | .sequence first second => do
        let _ ← run fuel first
        run fuel second
      | .andThen first second => do
        let status ← run fuel first
        if status = 0 then run fuel second else pure status
      | .orElse first second => do
        let status ← run fuel first
        if status = 0 then pure status else run fuel second
      | .negated command => do
        let status ← run fuel command
        pure (if status = 0 then 1 else 0)
      | .conditional condition success failure => do
        let status ← run fuel condition
        if status = 0 then run fuel success else run fuel failure
      | .loop untilSuccess condition body => do
        let test := (fun status => (status = 0) != untilSuccess) <$> run fuel condition
        runWhile test (run fuel body) fuel 0
      | .iteration name words body => do
        let values ← match words with
          | some words => expandWords 0 words
          | none => do pure (← get).arguments
        runEach name (run fuel body) 0 values
      | .selection word branches => do
        let text ← expandText 0 word
        match ← branchFor text.toList branches with
        | some body => run fuel body
        | none => pure 0
      | .subshell body => runApart (run fuel body)
      | .redirected line body list => withRedirections line list (run fuel body)
    modify fun s => { s with status }
    return status

end AsmHarness.Shell
