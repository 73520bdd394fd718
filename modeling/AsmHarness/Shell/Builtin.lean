import AsmHarness.Shell.Files
import AsmHarness.Shell.Format

/-!
# Commands that are built in

The commands a script can use besides its own structure. Each takes its arguments and gives an exit
code; those that are part of the shell itself end the script if they are misused.
-/

namespace AsmHarness.Shell

/-- Writes to the regular output. -/
def say (bytes : ByteArray) : Run Nat := do
  return if ← emit 1 bytes then 0 else 1

/-- Ends the script after a message. -/
def abort (line : Nat) (text : String) : Run Nat := do
  complain line text
  throw (.exit 2)

/-! ## Output -/

/-- Writes its arguments on a line. -/
def echo (args : List String) : Run Nat :=
  let (ending, args) := match args with
    | "-n" :: rest => ("", rest)
    | _ => ("\n", args)
  let text := " ".intercalate args
  let (bytes, ended) := unescaped (text.length + 1) text.toList .empty
  say (if ended then bytes else bytes ++ ending.toUTF8)

/-- Complains about arguments that are no numbers. -/
def complainNumbers (line : Nat) : List String → Run Unit
  | [] => pure ()
  | text :: rest => do
    complain line ("printf: " ++ text ++ ": expected numeric value")
    complainNumbers line rest

/-- Writes a format. -/
def printf (line : Nat) (args : List String) : Run Nat := do
  let args := match args with
    | "--" :: rest => rest
    | _ => args
  match args with
  | [] =>
    complain line "printf: usage: printf format [arg ...]"
    return 2
  | format :: args =>
    match format.toList with
    | '-' :: c :: _ =>
      complain line ("printf: Illegal option -" ++ .singleton c)
      return 2
    | chars =>
      let result := formatAll chars (args.length + 1) ⟨.empty, args, false, false, [], none⟩
      complainNumbers line result.faulty
      if let some text := result.complaint then complain line ("printf: " ++ text)
      let status ← say result.written
      return if result.complaint.isSome then 2 else if result.faulty.isEmpty then status else 1

/-! ## Tests -/

/-- The answer to a question, or what is wrong with it. -/
abbrev Answer := Except String Bool

/-- Whether a condition on a text or a file holds. -/
def unaryTest (files : FileTree) (operator text : String) : Answer :=
  let node := (files.node text).toOption
  match operator with
  | "-n" => .ok (text ≠ "")
  | "-z" => .ok (text = "")
  | "-e" => .ok node.isSome
  | "-d" => .ok (node.any Node.isFolder)
  | "-f" => .ok (node.any (!·.isFolder))
  | "-r" => .ok (node.any (·.mode.readable))
  | "-w" => .ok (node.any (·.mode.writable))
  | "-x" => .ok (node.any (·.mode.executable))
  | "-s" =>
    .ok (node.any fun
      | .file content _ => content.size ≠ 0
      | .folder .. => true)
  | "-h" | "-L" | "-t" | "-p" | "-S" | "-b" | "-c" => .ok false
  | _ => .error (operator ++ ": unexpected operator")

/-- Whether a relation between two numbers holds. -/
def numericTest (relation : Int → Int → Bool) (a b : String) : Answer :=
  match integer? a, integer? b with
  | some a, some b => .ok (relation a b)
  | none, _ => .error ("Illegal number: " ++ a)
  | _, none => .error ("Illegal number: " ++ b)

/-- Whether a relation between two texts holds, if there is one of the name. -/
def binaryTest? (a operator b : String) : Option Answer :=
  match operator with
  | "=" => some (.ok (a = b))
  | "!=" => some (.ok (a ≠ b))
  | "<" => some (.ok (a < b))
  | ">" => some (.ok (b < a))
  | "-eq" => some (numericTest (· = ·) a b)
  | "-ne" => some (numericTest (· ≠ ·) a b)
  | "-gt" => some (numericTest (· > ·) a b)
  | "-ge" => some (numericTest (· ≥ ·) a b)
  | "-lt" => some (numericTest (· < ·) a b)
  | "-le" => some (numericTest (· ≤ ·) a b)
  | _ => none

/-- Whether a condition of at most three words holds. -/
def shortTest (files : FileTree) : List String → Answer
  | [] => .ok false
  | [text] => .ok (text ≠ "")
  | [operator, text] => if operator = "!" then .ok (text = "") else unaryTest files operator text
  | [a, operator, b] =>
    match binaryTest? a operator b with
    | some answer => answer
    | none =>
      if a = "!" then (unaryTest files operator b).map (!·)
      else if a = "(" ∧ b = ")" then .ok (operator ≠ "")
      else .error (operator ++ ": unexpected operator")
  | _ => .error "unexpected operator"

/-- Whether a condition holds. -/
def test (line : Nat) (name : String) (args : List String) : Run Nat := do
  let files := (← get).files
  let answer := match args with
    | ["!", a, b, c] => (shortTest files [a, b, c]).map (!·)
    | _ => shortTest files args
  match answer with
  | .ok holds => return if holds then 0 else 1
  | .error text =>
    complain line (name ++ ": " ++ text)
    return 2

/-! ## Input -/

/-- The values of some variables that a line is cut into; the last one has what is left. -/
def cutLine : List String → List Char → List (String × String)
  | [], _ => []
  | [name], line =>
    let line := (line.dropWhile isFieldSeparator).reverse.dropWhile isFieldSeparator
    [(name, .ofList line.reverse)]
  | name :: names, line =>
    let line := line.dropWhile isFieldSeparator
    (name, .ofList (line.takeWhile (!isFieldSeparator ·))) ::
      cutLine names (line.dropWhile (!isFieldSeparator ·))

/-- Gives variables values. -/
def assignAll : List (String × String) → Run Unit
  | [] => pure ()
  | (name, value) :: rest => do
    assign name value
    assignAll rest

/-- Reads a line of the input into variables. -/
def readLine (line : Nat) (args : List String) : Run Nat := do
  let names := args.filter (· ≠ "-r")
  if names.isEmpty then
    complain line "read: arg count"
    return 2
  let input := (← get).input
  let bytes := input.takeWhile (· ≠ 10)
  let rest := input.dropWhile (· ≠ 10)
  modify fun s => { s with input := rest.tail }
  let text := (String.fromUTF8? ⟨bytes.toArray⟩).getD ""
  assignAll (cutLine names text.toList)
  return if rest.isEmpty then 1 else 0

/-! ## The script itself -/

/-- Drops arguments from the front. -/
def shift (line : Nat) (args : List String) : Run Nat := do
  let count := args.head?.elim (some 1) natural?
  match count with
  | none => abort line ("shift: Illegal number: " ++ args.headD "")
  | some n =>
    if (← get).arguments.length < n then abort line "shift: can't shift that many"
    else
      modify fun s => { s with arguments := s.arguments.drop n }
      return 0

/-- Ends the script. -/
def exitScript (line : Nat) (args : List String) : Run Nat := do
  match args with
  | [] => throw (.exit (← get).status)
  | text :: _ =>
    match natural? text with
    | some code => throw (.exit (code % 256))
    | none => abort line ("exit: Illegal number: " ++ text)

/-- The names of signals, each with its number. -/
def signals : List (String × Nat) :=
  [("HUP", 1), ("INT", 2), ("QUIT", 3), ("ILL", 4), ("TRAP", 5), ("ABRT", 6), ("BUS", 7),
   ("FPE", 8), ("KILL", 9), ("USR1", 10), ("SEGV", 11), ("USR2", 12), ("PIPE", 13), ("ALRM", 14),
   ("TERM", 15), ("STKFLT", 16), ("CHLD", 17), ("CONT", 18), ("STOP", 19), ("TSTP", 20),
   ("TTIN", 21), ("TTOU", 22), ("URG", 23), ("XCPU", 24), ("XFSZ", 25), ("VTALRM", 26),
   ("PROF", 27), ("WINCH", 28), ("POLL", 29), ("PWR", 30), ("SYS", 31)]

/-- The signals that end no script: those that are ignored, and those that would only halt it. -/
def harmlessSignals : List Nat := [0, 17, 18, 19, 20, 21, 22, 23, 28]

/-- How many signals there are. -/
def signalCount : Nat := 65

/-- The signal of a number or a name. -/
def signal? (text : String) : Option Nat :=
  let chars := text.toList
  if !chars.isEmpty && chars.all Char.isDigit then
    if Text.decimal chars < signalCount then some (Text.decimal chars) else none
  else signals.lookup (text.map Char.toUpper)

/-- Sends a signal to processes. The script itself is the only one it can reach. -/
def sendSignal (line signal : Nat) : List String → Run Nat
  | [] => return 0
  | text :: rest => do
    match integer? text with
    | none =>
      complain line ("kill: Illegal number: " ++ text)
      return 2
    | some number =>
      if number = processNumber then
        if harmlessSignals.contains signal then sendSignal line signal rest
        else throw (.signal signal)
      else
        complain line "kill: No such process"
        return max 1 (← sendSignal line signal rest)

/-- Sends a signal. -/
def kill (line : Nat) (args : List String) : Run Nat := do
  match args with
  | "-s" :: name :: processes =>
    match signal? name with
    | some signal => sendSignal line signal processes
    | none =>
      complain line ("kill: invalid signal number or name: " ++ name)
      return 2
  | "-" :: _ =>
    complain line "kill: Illegal number: "
    return 2
  | first :: processes =>
    match first.toList with
    | '-' :: name =>
      match signal? (.ofList name) with
      | some signal => sendSignal line signal processes
      | none =>
        complain line ("kill: Illegal option -" ++ .ofList (name.take 1))
        return 2
    | _ => sendSignal line 15 args
  | [] =>
    complain line "kill: Usage: kill [-s sigspec | -signum | -sigspec] [pid | job]..."
    return 2

/-- Leaves some loops, if there are any. -/
def leaveLoops (line : Nat) (name : String) (stop : Nat → Stop) (args : List String) : Run Nat := do
  match args.head?.elim (some 1) natural? with
  | some (n + 1) => if (← get).loops = 0 then return 0 else throw (stop (n + 1))
  | _ => abort line (name ++ ": Illegal number: " ++ args.headD "")

/-- Takes variables away. -/
def unset (names : List String) : Run Nat := do
  modify fun s => { s with environment := names.foldl Environment.erase s.environment }
  return 0

/-- Gives variables the values written behind their names. -/
def export_ (args : List String) : Run Nat := do
  let changes := (args.map Change.ofEntry).filter (·.2.isSome)
  modify fun s => { s with environment := s.environment.apply changes }
  return 0

/-- Runs a command by name. -/
def runNamed (line : Nat) (name : String) (args : List String) : Run Nat :=
  match name with
  | ":" | "true" => return 0
  | "false" => return 1
  | "echo" => echo args
  | "printf" => printf line args
  | "test" => test line "test" args
  | "[" =>
    if args.getLast? = some "]" then test line "[" args.dropLast
    else do
      complain line "[: missing ]"
      return 2
  | "read" => readLine line args
  | "shift" => shift line args
  | "exit" => exitScript line args
  | "kill" => kill line args
  | "break" => leaveLoops line "break" .leave args
  | "continue" => leaveLoops line "continue" .goOn args
  | "unset" => unset args
  | "export" => export_ args
  | _ =>
    match runFileCommand? name args with
    | some action => action
    | none => do
      complain line (name ++ ": not found")
      return 127

/-- Whether a command is part of the shell itself. -/
def isSpecial (name : String) : Bool :=
  [":", "shift", "exit", "break", "continue", "unset", "export"].contains name

end AsmHarness.Shell
